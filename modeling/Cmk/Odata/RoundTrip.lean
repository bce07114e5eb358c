import Cmk.Odata.Split

/-!
# Cmk.Odata.RoundTrip

A list of fields and values written as a filter, and what the parser makes of it.

- `literal`, `comparison`, `filterText`: how the filter is written. Quotes are doubled.
- `scanBytes_comparisons`, `split_places`: the filter is split where it was put together.
- `validator_sees_value_iff`: what a validator has to do with the value.
- `filter_round_trip_iff`: when the parser gives the list back.
-/

namespace Cmk

open List QueryOdataMapper

open Bytes

variable {p : Bytes × Bytes} {pairs : List (Bytes × Bytes)}

variable {field name rest w : Bytes} {s : Scan} {k : Nat}

/-- Every quote doubled. -/
def escape : Bytes → Bytes
  | [] => []
  | b :: s => if b = quote then quote :: quote :: escape s else b :: escape s

def literal (value : Bytes) : Bytes := quote :: (escape value ++ [quote])

def comparison (field value : Bytes) : Bytes := field ++ eqOp ++ literal value

def filterText (pairs : List (Bytes × Bytes)) : Bytes :=
  andOp.intercalate (pairs.map fun p => comparison p.1 p.2)

theorem filterText_cons_cons (p q : Bytes × Bytes) (pairs : List (Bytes × Bytes)) :
    filterText (p :: q :: pairs) = comparison p.1 p.2 ++ (andOp ++ filterText (q :: pairs)) := by
  simp [filterText, intercalate_cons_cons]

theorem filterText_singleton (p : Bytes × Bytes) : filterText [p] = comparison p.1 p.2 := by
  simp [filterText, intercalate_singleton]

theorem filterText_head (p : Bytes × Bytes) (pairs : List (Bytes × Bytes)) :
    ∃ rest, filterText (p :: pairs) = p.1 ++ eqOp ++ rest := by
  cases pairs with
  | nil => exact ⟨literal p.2, filterText_singleton p⟩
  | cons q pairs =>
    refine ⟨literal p.2 ++ (andOp ++ filterText (q :: pairs)), ?_⟩
    rw [filterText_cons_cons, comparison]
    simp only [append_assoc]

def PlainName (name : Bytes) : Prop := ∀ b ∈ name, b ∉ starters

instance (name : Bytes) : Decidable (PlainName name) :=
  List.decidableBAll (fun b => b ∉ starters) name

theorem unescape_cons_of_ne {b : UInt8} (hb : b ≠ quote) (s : Bytes) :
    unescape (b :: s) = b :: unescape s := by
  cases s with
  | nil => rfl
  | cons b' s => simp [unescape, hb]

theorem unescape_escape (v : Bytes) : unescape (escape v) = v := by
  induction v with
  | nil => rfl
  | cons b s ih =>
    unfold escape
    split
    · rename_i hb
      simp [unescape, ih, hb]
    · rename_i hb
      rw [unescape_cons_of_ne hb, ih]

theorem checkQuotes_escape (v : Bytes) {cnt : Nat} (h : cnt % 2 = 0) :
    checkQuotes cnt (escape v) = .ok () := by
  induction v generalizing cnt with
  | nil => rfl
  | cons b s ih =>
    unfold escape
    split
    · simp only [checkQuotes, if_true]
      exact ih (by omega)
    · rename_i hb
      simp only [checkQuotes, hb, if_false, h, ne_eq, not_true_eq_false]
      exact ih rfl

theorem convertString_escape (v : Bytes) : convertString (escape v) = .ok v := by
  rw [convertString, checkQuotes_escape v rfl]
  exact congrArg Except.ok (unescape_escape v)

theorem trimPrefix_of_head {sps : List Bytes} {fuel : Nat} {s : Bytes}
    (h : ∀ sp ∈ sps, ¬ sp <+: s) : trimPrefix sps fuel s = s := by
  cases fuel with
  | zero => rfl
  | succ fuel =>
    have hnone : sps.find? (fun sp => sp.isPrefixOf s) = none := by
      rw [find?_eq_none]
      intro sp hsp
      rw [ isPrefixOf_iff_prefix]
      exact h sp hsp
    rw [trimPrefix, hnone]

theorem trimSpace_literal (v : Bytes) : trimSpace (literal v) = literal v := by
  have hhead : ∀ sps : List Bytes, (∀ sp ∈ sps, ∃ b ∈ sp.head?, b ≠ quote) → ∀ s : Bytes,
      ∀ sp ∈ sps, ¬ sp <+: quote :: s := by
    intro sps hsps s sp hsp hpre
    obtain ⟨b, hb, hne⟩ := hsps sp hsp
    obtain ⟨t, rfl⟩ := head?_eq_some_iff.1 hb
    exact hne (cons_prefix_cons.1 hpre).1
  have hl : ∀ n, trimPrefix spaces n (literal v) = literal v := fun n =>
    trimPrefix_of_head (hhead spaces (by decide) _)
  have hrev : (literal v).reverse = quote :: (quote :: escape v).reverse := by
    simp [literal]
  simp only [trimSpace, hl]
  rw [trimPrefix_of_head, reverse_reverse]
  rw [hrev]
  exact hhead _ (by decide) _

theorem slice_literal (v : Bytes) :
    (literal v).slice 1 ((literal v).length - 1) = .ok (escape v) := by
  rw [slice_ok (by simp [literal]) (Nat.sub_le _ _)]
  simp [literal]

theorem scanBytes_plain (h : PlainName name) (i : Nat) (s : Scan) :
    scanBytes i (name ++ rest) s = scanBytes (i + name.length) rest s := by
  induction name generalizing i with
  | nil => rfl
  | cons c name ih =>
    rw [cons_append, scanBytes, Scan.step_of_plain (h c (by simp))]
    simp only [length_cons]
    rw [ih (fun b hb => h b (by simp [hb])), Nat.add_right_comm, Nat.add_assoc]

theorem scanBytes_escape (v rest : Bytes) (i : Nat) (h : s.quoteCount % 2 = 1) :
    ∃ q, q % 2 = 1 ∧ scanBytes i (escape v ++ rest) s =
      scanBytes (i + (escape v).length) rest { s with quoteCount := q } := by
  induction v generalizing i s with
  | nil => exact ⟨s.quoteCount, h, rfl⟩
  | cons b v ih =>
    by_cases hb : b = quote
    · obtain ⟨q, hq, hscan⟩ := ih (i + 1 + 1) (s := ⟨s.quoteCount + 1 + 1, s.boolOpIndices,
        s.properDyadFound⟩) (by simp only; omega)
      refine ⟨q, hq, ?_⟩
      simp only [escape, hb, if_true, cons_append, scanBytes, Scan.step, length_cons]
      rw [hscan]
      congr 1
      omega
    · obtain ⟨q, hq, hscan⟩ := ih (i + 1) h
      refine ⟨q, hq, ?_⟩
      have hodd : ¬ s.quoteCount % 2 = 0 := by omega
      simp only [escape, hb, if_false, cons_append, scanBytes, Scan.step, length_cons,
        hodd]
      rw [hscan]
      congr 1
      omega

theorem scanBytes_literal (v rest : Bytes) (i : Nat) (h : s.quoteCount % 2 = 0) :
    ∃ q, q % 2 = 0 ∧ scanBytes i (literal v ++ rest) s =
      scanBytes (i + (literal v).length) rest { s with quoteCount := q } := by
  obtain ⟨q, hq, hscan⟩ := scanBytes_escape v (quote :: rest) (i + 1)
    (s := { s with quoteCount := s.quoteCount + 1 }) (by simp only; omega)
  refine ⟨q + 1, by omega, ?_⟩
  simp only [literal, cons_append, append_assoc, nil_append]
  rw [scanBytes, Scan.step, if_pos rfl]
  dsimp only
  rw [hscan, scanBytes, Scan.step, if_pos rfl]
  simp only [length_cons, length_append, length_nil]
  congr 1
  omega

theorem scanBytes_check {c : UInt8} {i : Nat} {found dyad : Bool} (hc : c ≠ quote)
    (h : s.quoteCount % 2 = 0)
    (hcheck : checkFilterForOperation (c :: rest) s.properDyadFound = .ok (found, dyad)) :
    scanBytes i (c :: rest) s = scanBytes (i + 1) rest
      ⟨s.quoteCount, if found then s.boolOpIndices ++ [i] else s.boolOpIndices, dyad⟩ := by
  rw [scanBytes, Scan.step, if_neg hc, if_pos h, hcheck]

theorem space_ne_quote : (32 : UInt8) ≠ quote := by decide

theorem scanBytes_eqOp (rest : Bytes) (i : Nat) (h : s.quoteCount % 2 = 0)
    (hd : s.properDyadFound = false) :
    scanBytes i (eqOp ++ quote :: rest) s =
      scanBytes (i + eqOp.length) (quote :: rest) { s with properDyadFound := true } := by
  have hword : PlainName (ascii "eq") := by decide
  have heq : checkFilterForOperation (32 :: (ascii "eq" ++ 32 :: quote :: rest))
      s.properDyadFound = .ok (false, true) := by rw [hd]; rfl
  have hlegal : checkFilterForOperation (32 :: quote :: rest) true = .ok (false, true) := rfl
  calc scanBytes i (32 :: (ascii "eq" ++ 32 :: quote :: rest)) s
      = scanBytes (i + 1) (ascii "eq" ++ 32 :: quote :: rest)
          { s with properDyadFound := true } := scanBytes_check space_ne_quote h heq
    _ = scanBytes (i + 3) (32 :: quote :: rest) { s with properDyadFound := true } :=
        scanBytes_plain hword _ _
    _ = scanBytes (i + 4) (quote :: rest) { s with properDyadFound := true } :=
        scanBytes_check (s := { s with properDyadFound := true }) space_ne_quote h hlegal

theorem scanBytes_comparison (hfield : PlainName field) (v rest : Bytes) (i : Nat)
    (h : s.quoteCount % 2 = 0) (hd : s.properDyadFound = false) :
    ∃ q, q % 2 = 0 ∧ scanBytes i (comparison field v ++ rest) s =
      scanBytes (i + (comparison field v).length) rest ⟨q, s.boolOpIndices, true⟩ := by
  obtain ⟨q, hq, hscan⟩ := scanBytes_literal v rest (i + field.length + eqOp.length)
    (s := { s with properDyadFound := true }) h
  refine ⟨q, hq, ?_⟩
  rw [comparison, append_assoc, append_assoc, scanBytes_plain hfield]
  have hquote : literal v ++ rest = quote :: (escape v ++ [quote] ++ rest) := rfl
  rw [hquote, scanBytes_eqOp _ _ h hd, ← hquote, hscan]
  simp only [length_append, Nat.add_assoc]

def operationNames : List Bytes :=
  ["and", "eq", "or", "not", "ne", "gt", "ge", "lt", "le"].map ascii

theorem eq_of_word (hw : 32 ∉ w) (hname : 32 ∉ name) (h : w ++ [32] <+: name ++ 32 :: rest) :
    w = name := by
  induction w generalizing name with
  | nil =>
    cases name with
    | nil => rfl
    | cons c name =>
      have hc := (cons_prefix_cons.1 h).1
      simp [← hc] at hname
  | cons b w ih =>
    cases name with
    | nil =>
      have hb := (cons_prefix_cons.1 h).1
      simp [hb] at hw
    | cons c name =>
      obtain ⟨rfl, htail⟩ := cons_prefix_cons.1 h
      rw [ih (fun hmem => hw (by simp [hmem])) (fun hmem => hname (by simp [hmem])) htail]

theorem operation_word : ∀ op ∈ andOp :: eqOp :: nonSupportedOperations,
    op = [40] ∨ op = [41] ∨ ∃ w ∈ operationNames, 32 ∉ w ∧ op = 32 :: (w ++ [32]) := by decide

/-- Between a space and the operation of its comparison, a name that is not one of an operation is
no operation. -/
theorem check_name {d : Bool} (hname : PlainName name) (hop : name ∉ operationNames) :
    checkFilterForOperation (32 :: (name ++ 32 :: rest)) d = .ok (false, d) := by
  have hspace : 32 ∉ name := fun h => hname 32 h (by decide)
  have hnone : ∀ op ∈ andOp :: eqOp :: nonSupportedOperations,
      ¬ op <+: 32 :: (name ++ 32 :: rest) := by
    intro op hmem hpre
    rcases operation_word op hmem with rfl | rfl | ⟨w, hw, hws, rfl⟩
    · exact absurd (cons_prefix_cons.1 hpre).1 (by decide)
    · exact absurd (cons_prefix_cons.1 hpre).1 (by decide)
    · exact hop (eq_of_word hws hspace (cons_prefix_cons.1 hpre).2 ▸ hw)
  rcases check_cases (32 :: (name ++ 32 :: rest)) d with ⟨hand, -⟩ | ⟨heq, -⟩ | ⟨-, ⟨op, hmem, hpre⟩, -⟩ |
    ⟨-, -, -, hr⟩
  · exact absurd hand (hnone _ (by simp))
  · exact absurd heq (hnone _ (by simp))
  · exact absurd hpre (hnone _ (by simp [hmem]))
  · exact hr

theorem scanBytes_andOp (hfield : PlainName field) (hop : field ∉ operationNames) (rest : Bytes)
    (i : Nat) (h : s.quoteCount % 2 = 0) :
    scanBytes i (andOp ++ (field ++ eqOp ++ rest)) s =
      scanBytes (i + andOp.length) (field ++ eqOp ++ rest)
        ⟨s.quoteCount, s.boolOpIndices ++ [i], false⟩ := by
  have hword : PlainName (ascii "and") := by decide
  have hsplit : field ++ eqOp ++ rest = field ++ 32 :: (ascii "eq " ++ rest) := by
    rw [append_assoc]
    rfl
  rw [hsplit]
  have hand : checkFilterForOperation (32 :: (ascii "and" ++ 32 :: (field ++ 32 ::
      (ascii "eq " ++ rest)))) s.properDyadFound = .ok (true, false) := rfl
  calc scanBytes i (32 :: (ascii "and" ++ 32 :: (field ++ 32 :: (ascii "eq " ++ rest)))) s
      = scanBytes (i + 1) (ascii "and" ++ 32 :: (field ++ 32 :: (ascii "eq " ++ rest)))
          ⟨s.quoteCount, s.boolOpIndices ++ [i], false⟩ := scanBytes_check space_ne_quote h hand
    _ = scanBytes (i + 4) (32 :: (field ++ 32 :: (ascii "eq " ++ rest)))
          ⟨s.quoteCount, s.boolOpIndices ++ [i], false⟩ := scanBytes_plain hword _ _
    _ = scanBytes (i + 5) (field ++ 32 :: (ascii "eq " ++ rest))
          ⟨s.quoteCount, s.boolOpIndices ++ [i], false⟩ :=
        scanBytes_check (s := ⟨s.quoteCount, s.boolOpIndices ++ [i], false⟩) space_ne_quote h
          (check_name hfield hop)

/-- Where the `and` stand, if the filter starts at byte `i`. -/
def places : Nat → List Bytes → List Nat
  | i, part :: part' :: parts =>
    (i + part.length) :: places (i + part.length + andOp.length) (part' :: parts)
  | _, _ => []

theorem split_places (before part : Bytes) (parts : List Bytes) :
    splitBooleanOperandsFromIndices (before ++ andOp.intercalate (part :: parts)) before.length
      (places before.length (part :: parts)) = .ok (part :: parts) := by
  induction parts generalizing before part with
  | nil =>
    rw [places, intercalate_singleton, splitBooleanOperandsFromIndices,
      slice_ok (by simp) (le_refl _), take_length, drop_left]
    · rfl
    · simp
  | cons part' parts ih =>
    have htext : before ++ andOp.intercalate (part :: part' :: parts) =
        (before ++ part ++ andOp) ++ andOp.intercalate (part' :: parts) := by
      simp [intercalate_cons_cons]
    have hlen : before.length + part.length + andOp.length = (before ++ part ++ andOp).length := by
      simp [Nat.add_assoc]
    have hslice : ((before ++ part ++ andOp) ++ andOp.intercalate (part' :: parts)).slice
        before.length (before.length + part.length) = .ok part := by
      rw [slice_ok (Nat.le_add_right _ _) (by simp)]
      simp [take_append]
    rw [places, splitBooleanOperandsFromIndices, htext, hslice, hlen, ih]
    rfl

/-- The fields can be written, and none but the first is read as an operation. -/
structure Readable (pairs : List (Bytes × Bytes)) : Prop where
  plain : ∀ p ∈ pairs, PlainName p.1
  named : ∀ p ∈ pairs.tail, p.1 ∉ operationNames

theorem scanBytes_filterText (h : Readable (p :: pairs)) (i : Nat) (heven : s.quoteCount % 2 = 0)
    (hd : s.properDyadFound = false) :
    ∃ q, q % 2 = 0 ∧ scanBytes i (filterText (p :: pairs)) s =
      .ok ⟨q, s.boolOpIndices ++ places i ((p :: pairs).map fun p => comparison p.1 p.2), true⟩ := by
  induction pairs generalizing p i s with
  | nil =>
    obtain ⟨q, hq, hscan⟩ := scanBytes_comparison (h.plain p (by simp)) p.2 [] i heven hd
    refine ⟨q, hq, ?_⟩
    rw [filterText_singleton, ← append_nil (comparison p.1 p.2), hscan]
    simp [scanBytes, places]
  | cons p' pairs ih =>
    have h' : Readable (p' :: pairs) :=
      ⟨fun r hr => h.plain r (by simp [hr]), fun r hr => h.named r (by simp_all)⟩
    obtain ⟨q, hq, hscan⟩ := scanBytes_comparison (h.plain p (by simp)) p.2
      (andOp ++ filterText (p' :: pairs)) i heven hd
    obtain ⟨q', hq', hscan'⟩ := ih h' (i + (comparison p.1 p.2).length + andOp.length)
      (s := ⟨q, s.boolOpIndices ++ [i + (comparison p.1 p.2).length], false⟩) hq rfl
    refine ⟨q', hq', ?_⟩
    obtain ⟨rest, hrest⟩ := filterText_head p' pairs
    rw [filterText_cons_cons, hscan, hrest, scanBytes_andOp (h'.plain p' (by simp))
      (h.named p' (by simp)) _ _ hq, ← hrest]
    rw [hscan']
    simp [places]

theorem splitFirst_eqOp (h : 32 ∉ name) (rest : Bytes) :
    splitFirst eqOp (name ++ (eqOp ++ rest)) = some (name, rest) := by
  induction name with
  | nil => rfl
  | cons c name ih =>
    have hne : (32 : UInt8) ≠ c := fun hc => h (by simp [hc])
    have hno : eqOp.isPrefixOf (c :: (name ++ (eqOp ++ rest))) = false := by
      simp [eqOp, ascii, isPrefixOf, hne]
    rw [cons_append, splitFirst, hno, if_neg (by simp), ih fun hmem => h (by simp [hmem])]
    rfl

theorem splitComparisonOperation_comparison (h : PlainName field) (v : Bytes) :
    splitComparisonOperation (comparison field v) = .ok (trimSpace field, literal v) := by
  have hspace : 32 ∉ field := fun hmem => h 32 hmem (by decide)
  have hquote : quote ∉ field := fun hmem => h quote hmem (by decide)
  have htake : (field ++ (eqOp ++ literal v)).take field.length = field := take_left
  unfold splitComparisonOperation
  rw [comparison, append_assoc, splitFirst_eqOp hspace]
  simp only [htake, hquote, if_false, trimSpace_literal]

theorem splitComparisonOperations_comparisons (h : ∀ p ∈ pairs, PlainName p.1) :
    splitComparisonOperations (pairs.map fun p => comparison p.1 p.2) =
      .ok (pairs.map fun p => (trimSpace p.1, literal p.2)) := by
  induction pairs with
  | nil => rfl
  | cons p pairs ih =>
    rw [map_cons, splitComparisonOperations,
      splitComparisonOperation_comparison (h p (by simp)), ih fun r hr => h r (by simp [hr])]
    rfl

theorem filterText_ne_nil (p : Bytes × Bytes) (pairs : List (Bytes × Bytes)) :
    filterText (p :: pairs) ≠ [] := by
  obtain ⟨rest, hrest⟩ := filterText_head p pairs
  rw [hrest]
  simp [eqOp, ascii]

theorem parseFilter_filterText (h : Readable (p :: pairs)) :
    Cmk.parseFilter (filterText (p :: pairs)) =
      .ok ((p :: pairs).map fun p => (trimSpace p.1, literal p.2)) := by
  obtain ⟨q, hq, hscan⟩ := scanBytes_filterText h 0 (s := ⟨0, [], false⟩) rfl rfl
  have hodd : ¬ q % 2 = 1 := by omega
  have hsplit : splitBooleanOperations (filterText (p :: pairs)) =
      .ok ((p :: pairs).map fun p => comparison p.1 p.2) := by
    unfold splitBooleanOperations
    rw [scan_eq_scanBytes _ _ _ _ (by simp), hscan]
    simp only [hodd, if_false, nil_append]
    exact split_places [] (comparison p.1 p.2) (pairs.map fun p => comparison p.1 p.2)
  rw [Cmk.parseFilter, if_neg (filterText_ne_nil p pairs), hsplit]
  exact splitComparisonOperations_comparisons h.plain

section Schema

variable {Q : Type} (parseUUID : ParseUUID)

/-- An entry of type String, with nothing that changes or checks its values. -/
structure FilterSchemaEntry.Plain (e : FilterSchemaEntry Q) : Prop where
  name : PlainName e.filterName
  type : e.filterType = .string
  noModifier : e.valueModifier = none
  noValidator : e.valueValidator = none

theorem FilterSchemaEntry.apply_literal_eq {e : FilterSchemaEntry Q} (htype : e.filterType = .string)
    (hmod : e.valueModifier = none) (v : Bytes) :
    e.apply parseUUID (literal v) =
      if e.valueValidator.all (· (escape v)) then .ok (.string v)
      else .error (.of .errFilterInvalidValue) := by
  have hpre : e.preProcessValue (literal v) = .ok (escape v) := by
    have hlen : ¬ (literal v).length < 2 := by simp [literal]
    have hlast : ((quote :: escape v) ++ [quote]).getLast? = some quote := getLast?_concat
    unfold FilterSchemaEntry.preProcessValue
    rw [if_pos (.inl htype), if_neg, slice_literal]
    rintro (hcon | hcon | hcon)
    · exact hlen hcon
    · exact hcon rfl
    · exact hcon hlast
  have hconv : e.convert parseUUID (escape v) = .ok (.string v) := by
    unfold FilterSchemaEntry.convert
    rw [htype]
    dsimp only
    rw [convertString_escape]
    rfl
  unfold FilterSchemaEntry.apply FilterSchemaEntry.modify
  rw [hpre, hmod]
  dsimp only [bind, Except.bind]
  rw [hconv]
  cases e.valueValidator with
  | none => rfl
  | some V => rfl

theorem FilterSchemaEntry.Plain.apply_literal {e : FilterSchemaEntry Q} (h : e.Plain) (v : Bytes) :
    e.apply parseUUID (literal v) = .ok (.string v) := by
  rw [e.apply_literal_eq parseUUID h.type h.noModifier, h.noValidator]
  rfl

theorem QueryOdataMapper.parseFilter_comparison (schema : FilterSchema Q) (hname : PlainName name)
    (v : Bytes) :
    (⟨schema, []⟩ : QueryOdataMapper Q).parseFilter parseUUID (some (comparison name v)) =
      (schema.apply parseUUID (trimSpace name) (literal v)).map fun c => ⟨schema, [c]⟩ := by
  have hread : Readable [(name, v)] := by
    refine ⟨fun p hp => ?_, fun p hp => by cases hp⟩
    rw [mem_singleton.1 hp]
    exact hname
  have hparse := parseFilter_filterText hread
  rw [filterText_singleton] at hparse
  rw [parseFilter, hparse]
  simp only [map_cons, map_nil]
  change setFieldValues parseUUID _ _ = _
  rw [setFieldValues]
  cases schema.apply parseUUID (trimSpace name) (literal v) with
  | error e => rfl
  | ok c => rfl

theorem setFieldValues_ok_iff {mf mf' : QueryOdataMapper Q} {fields : List (Bytes × Bytes)} :
    mf.setFieldValues parseUUID fields = .ok mf' ↔
      ∃ new, List.Forall₂ (fun p c => mf.filterSchema.apply parseUUID p.1 p.2 = .ok c) fields new ∧
        mf' = { mf with parseFilterFields := mf.parseFilterFields ++ new } := by
  induction fields generalizing mf with
  | nil =>
    simp only [setFieldValues, Except.ok.injEq, forall₂_nil_left_iff]
    simp [eq_comm]
  | cons p fields ih =>
    have hunfold : mf.setFieldValues parseUUID (p :: fields) =
        (mf.filterSchema.apply parseUUID p.1 p.2).bind fun converted =>
          setFieldValues parseUUID
            { mf with parseFilterFields := mf.parseFilterFields ++ [converted] } fields := rfl
    rw [hunfold]
    cases happly : mf.filterSchema.apply parseUUID p.1 p.2 with
    | error e =>
      simp [Except.bind, forall₂_cons_left_iff, happly]
    | ok c =>
      simp only [Except.bind, ih, forall₂_cons_left_iff, happly, Except.ok.injEq,
        append_assoc, singleton_append]
      constructor
      · rintro ⟨new, hnew, rfl⟩
        exact ⟨_, ⟨c, new, rfl, hnew, rfl⟩, rfl⟩
      · rintro ⟨_, ⟨c, new, rfl, hnew, rfl⟩, rfl⟩
        exact ⟨new, hnew, rfl⟩

theorem FilterSchema.apply_literal_iff {fs : FilterSchema Q} (h : ∀ e ∈ fs, e.Plain)
    (field v : Bytes) (column : String) :
    fs.apply parseUUID field (literal v) = .ok (column, .string v) ↔
      ∃ e, fs.find? (fun entry => field = entry.filterName) = some e ∧ e.dbName = column := by
  unfold FilterSchema.apply
  cases hfind : fs.find? (fun entry => field = entry.filterName) with
  | none => simp
  | some e =>
    dsimp only
    rw [(h e (mem_of_find?_eq_some hfind)).apply_literal parseUUID v]
    simp [bind, Except.bind, pure, Except.pure]

/-- The parser accepts `field eq 'v'` exactly if the validator of the field accepts `v`, as long as
the validator does not tell `v` from `v` with its quotes doubled. -/
theorem validator_sees_value_iff {schema : FilterSchema Q} {e : FilterSchemaEntry Q}
    {V : Bytes → Bool} (hname : PlainName e.filterName)
    (hfound : schema.find? (fun entry => trimSpace e.filterName = entry.filterName) = some e)
    (htype : e.filterType = .string) (hmod : e.valueModifier = none)
    (hval : e.valueValidator = some V) (v : Bytes) :
    ((∃ mf, (⟨schema, []⟩ : QueryOdataMapper Q).parseFilter parseUUID
        (some (comparison e.filterName v)) = .ok mf) ↔ V v = true) ↔ V (escape v) = V v := by
  have haccepts : (∃ mf, (⟨schema, []⟩ : QueryOdataMapper Q).parseFilter parseUUID
      (some (comparison e.filterName v)) = .ok mf) ↔ V (escape v) = true := by
    rw [QueryOdataMapper.parseFilter_comparison parseUUID schema hname, FilterSchema.apply, hfound]
    dsimp only
    rw [e.apply_literal_eq parseUUID htype hmod, hval]
    cases hV : V (escape v) with
    | true =>
      refine ⟨fun _ => rfl, fun _ => ⟨⟨schema, [(e.dbName, .string v)]⟩, ?_⟩⟩
      rw [Option.all_some, if_pos hV]
      rfl
    | false =>
      refine ⟨fun ⟨mf, h⟩ => ?_, fun h => by cases h⟩
      rw [Option.all_some, hV] at h
      cases h
  rw [haccepts]
  exact Bool.eq_iff_iff.symm

namespace Sample

def shortName : FilterSchemaEntry Unit where
  filterName := ascii "name"
  filterType := .string
  dbName := "name"
  dbQuery := none
  valueModifier := none
  valueValidator := some (maxLengthValidator 3)

theorem short_name_accepted :
    (∃ mf, (⟨[shortName], []⟩ : QueryOdataMapper Unit).parseFilter (fun _ => .ok UUID.nil)
      (some (comparison (ascii "name") (ascii "abc"))) = .ok mf) ↔
    maxLengthValidator 3 (ascii "abc") = true :=
  (validator_sees_value_iff (e := shortName) (fun _ => .ok UUID.nil) (by decide) rfl rfl rfl rfl
    (ascii "abc")).2 (by decide)

/-- `a'b` has three bytes, but the validator is shown the four of `a''b`. -/
theorem short_name_refused :
    maxLengthValidator 3 (ascii "a'b") = true ∧
      (⟨[shortName], []⟩ : QueryOdataMapper Unit).parseFilter (fun _ => .ok UUID.nil)
        (some (ascii "name eq 'a''b'")) = .error (.of .errFilterInvalidValue) ∧
      comparison (ascii "name") (ascii "a'b") = ascii "name eq 'a''b'" := by
  refine ⟨by decide, rfl, by decide⟩

end Sample

end Schema

theorem count_escape (v : Bytes) : (escape v).count quote = 2 * v.count quote := by
  induction v with
  | nil => rfl
  | cons b v ih =>
    unfold escape
    split
    · rename_i hb
      subst hb
      simp only [count_cons_self, ih]
      omega
    · rename_i hb
      simp only [count_cons_of_ne hb, ih]

theorem even_comparison (h : PlainName field) (v : Bytes) :
    (comparison field v).count quote % 2 = 0 := by
  have hfield : field.count quote = 0 :=
    count_eq_zero.2 fun hmem => h quote hmem (by decide)
  have heq : eqOp.count quote = 0 := by decide
  simp only [comparison, literal, count_append, count_cons_self, hfield, heq,
    count_escape, count_nil]
  omega

theorem even_filterText (h : ∀ p ∈ pairs, PlainName p.1) :
    (filterText pairs).count quote % 2 = 0 := by
  induction pairs with
  | nil => rfl
  | cons p pairs ih =>
    have hp := even_comparison (h p (by simp)) p.2
    cases pairs with
    | nil => rwa [filterText_singleton]
    | cons q pairs =>
      have hand : andOp.count quote = 0 := by decide
      have hrest := ih fun r hr => h r (by simp [hr])
      rw [filterText_cons_cons, count_append, count_append, hand]
      omega

theorem filterText_append {front after : List (Bytes × Bytes)} (hf : front ≠ []) (ha : after ≠ []) :
    filterText (front ++ after) = filterText front ++ (andOp ++ filterText after) := by
  induction front with
  | nil => exact absurd rfl hf
  | cons p front ih =>
    cases front with
    | nil =>
      obtain ⟨q, after, rfl⟩ := exists_cons_of_ne_nil ha
      rw [singleton_append, filterText_cons_cons, filterText_singleton]
    | cons q front =>
      rw [cons_append, cons_append, filterText_cons_cons, filterText_cons_cons,
        ← cons_append, ih (by simp)]
      simp only [append_assoc]

theorem not_rejected_of_parseFilter {f : Bytes} {fields : List (Bytes × Bytes)} (hf : f ≠ [])
    (h : Cmk.parseFilter f = .ok fields) :
    ¬ Rejected f ∧ ¬ ∃ i, Unquoted f i ∧ andAnd <+: f.drop i := by
  have hrej : ¬ Rejected f := by
    rcases splitBooleanOperations_cases f with ⟨-, e, hs⟩ | ⟨hrej, -⟩
    · rw [Cmk.parseFilter, if_neg hf, hs] at h
      cases h
    · exact hrej
  have hret : Returns (Cmk.parseFilter f) := h ▸ .ok fields
  rw [returns_parseFilter_iff, returns_splitBooleanOperations_iff] at hret
  exact ⟨hrej, hret.resolve_left hrej⟩

section Behind

variable {a l : Bytes} (ha : a.count quote % 2 = 0)
include ha

theorem unquoted_append (hk : (l.take k).count quote = 0) :
    Unquoted (a ++ l) (a.length + k) := by
  rw [Unquoted, take_length_add_append, count_append, hk]
  exact ha

theorem eqAt_append (hk : (l.take k).count quote = 0) (h : eqOp <+: l.drop k) :
    EqAt (a ++ l) (a.length + k) :=
  ⟨unquoted_append ha hk, by rwa [drop_length_add_append]⟩

theorem rejected_of_unsupported (hk : (l.take k).count quote = 0)
    (hlegal : nextLegal (l.drop k) = false) (op : Bytes) (hop : op ∈ nonSupportedOperations)
    (h : op <+: l.drop k) : Rejected (a ++ l) := by
  refine .inr (.inl ⟨a.length + k, unquoted_append ha hk, ?_, op, hop, ?_⟩)
  · rwa [drop_length_add_append]
  · rwa [drop_length_add_append]

theorem rejected_of_eq {t : Bytes} : Rejected (a ++ (andOp ++ (ascii "eq" ++ eqOp ++ t))) := by
  have hfirst : EqAt (a ++ (andOp ++ (ascii "eq" ++ eqOp ++ t))) (a.length + 4) :=
    eqAt_append ha rfl ⟨ascii "eq " ++ t, rfl⟩
  refine .inr (.inr ⟨a.length + 7, eqAt_append ha rfl ⟨t, rfl⟩, a.length + 4, by omega, hfirst, ?_⟩)
  intro j hj hj' hand
  obtain rfl | rfl : j = a.length + 5 ∨ j = a.length + 6 := by omega
  · have hpre := hand.2
    rw [drop_length_add_append] at hpre
    exact startsWithOp_eq_false.1 rfl hpre
  · have hpre := hand.2
    rw [drop_length_add_append] at hpre
    exact startsWithOp_eq_false.1 rfl hpre

theorem andAnd_of_and {t : Bytes} :
    ∃ i, Unquoted (a ++ (andOp ++ (ascii "and" ++ eqOp ++ t))) i ∧
      andAnd <+: (a ++ (andOp ++ (ascii "and" ++ eqOp ++ t))).drop i := by
  refine ⟨a.length + 0, unquoted_append ha rfl, ?_⟩
  rw [drop_length_add_append]
  exact ⟨ascii "eq " ++ t, rfl⟩

end Behind

theorem parseFilter_operationName {front after : List (Bytes × Bytes)}
    (hplain : ∀ r ∈ front, PlainName r.1) (hf : front ≠ []) (hp : p.1 ∈ operationNames) :
    ∀ fields, Cmk.parseFilter (filterText (front ++ p :: after)) ≠ .ok fields := by
  intro fields hok
  obtain ⟨rest, hrest⟩ := filterText_head p after
  have htext : filterText (front ++ p :: after) =
      filterText front ++ (andOp ++ (p.1 ++ eqOp ++ rest)) := by
    rw [filterText_append hf (by simp), hrest]
  have heven := even_filterText hplain
  rw [htext] at hok
  obtain ⟨hrej, hand⟩ := not_rejected_of_parseFilter (by simp [andOp, ascii]) hok
  simp only [operationNames, map_cons, map_nil, mem_cons, not_mem_nil,
    or_false] at hp
  have hunsupported : ∀ w, p.1 = w → 32 :: (w ++ [32]) ∈ nonSupportedOperations →
      nextLegal (32 :: (w ++ (eqOp ++ rest))) = false → False := by
    rintro w rfl hop hlegal
    refine hrej (rejected_of_unsupported (k := 4) heven rfl ?_ (32 :: (p.1 ++ [32])) hop ?_)
    · rw [append_assoc]
      exact hlegal
    · refine ⟨ascii "eq " ++ rest, ?_⟩
      simp only [cons_append, append_assoc]
      rfl
  rcases hp with hw | hw | hw | hw | hw | hw | hw | hw | hw
  · rw [hw] at hand
    exact hand (andAnd_of_and heven)
  · rw [hw] at hrej
    exact hrej (rejected_of_eq heven)
  all_goals exact hunsupported _ hw (by decide) rfl

section RoundTrip

variable {Q : Type} (parseUUID : ParseUUID)

theorem setFieldValues_expected_iff {α : Type} (mf : QueryOdataMapper Q) (l : List α)
    (fields : α → Bytes × Bytes) (expected : α → String × FilterValue) :
    mf.setFieldValues parseUUID (l.map fields) =
        .ok { mf with parseFilterFields := mf.parseFilterFields ++ l.map expected } ↔
      ∀ a ∈ l, mf.filterSchema.apply parseUUID (fields a).1 (fields a).2 = .ok (expected a) := by
  rw [setFieldValues_ok_iff]
  constructor
  · rintro ⟨new, hnew, heq⟩
    have hlist := congrArg parseFilterFields heq
    obtain rfl := append_cancel_left hlist
    rw [forall₂_map_left_iff, forall₂_map_right_iff, forall₂_same] at hnew
    exact hnew
  · intro h
    refine ⟨_, ?_, rfl⟩
    rw [forall₂_map_left_iff, forall₂_map_right_iff, forall₂_same]
    exact h

/-- The parser gives the list back exactly if no name after the first is that of an operation, and
every name, without the white space around it, is that of the same column. -/
theorem filter_round_trip_iff (mf : QueryOdataMapper Q)
    (hschema : ∀ e ∈ mf.filterSchema, e.Plain) (pairs : List (FilterSchemaEntry Q × Bytes))
    (hne : pairs ≠ []) (hmem : ∀ p ∈ pairs, p.1 ∈ mf.filterSchema) :
    mf.parseFilter parseUUID (some (filterText (pairs.map fun p => (p.1.filterName, p.2)))) =
        .ok { mf with
          parseFilterFields :=
            mf.parseFilterFields ++ pairs.map fun p => (p.1.dbName, .string p.2) } ↔
      (∀ p ∈ pairs.tail, p.1.filterName ∉ operationNames) ∧
        ∀ p ∈ pairs, ∃ e, mf.filterSchema.find?
          (fun entry => trimSpace p.1.filterName = entry.filterName) = some e ∧
            e.dbName = p.1.dbName := by
  have hplain : ∀ p ∈ pairs, PlainName p.1.filterName := fun p hp => (hschema _ (hmem p hp)).name
  by_cases hnamed : ∀ p ∈ pairs.tail, p.1.filterName ∉ operationNames
  · obtain ⟨p, rest, rfl⟩ := List.exists_cons_of_ne_nil hne
    have hread : Readable ((p :: rest).map fun p => (p.1.filterName, p.2)) := by
      constructor
      · intro r hr
        obtain ⟨r', hr', rfl⟩ := List.mem_map.1 hr
        exact hplain r' hr'
      · intro r hr
        rw [List.map_cons, List.tail_cons] at hr
        obtain ⟨r', hr', rfl⟩ := List.mem_map.1 hr
        exact hnamed r' hr'
    have hparse : Cmk.parseFilter (filterText ((p :: rest).map fun p => (p.1.filterName, p.2))) =
        .ok ((p :: rest).map fun p => (trimSpace p.1.filterName, literal p.2)) := by
      rw [List.map_cons, parseFilter_filterText hread]
      simp
    rw [QueryOdataMapper.parseFilter, hparse]
    refine (setFieldValues_expected_iff parseUUID mf (p :: rest)
      (fun p => (trimSpace p.1.filterName, literal p.2))
      fun p => (p.1.dbName, .string p.2)).trans ?_
    rw [and_iff_right hnamed]
    refine forall₂_congr fun r hr => ?_
    exact FilterSchema.apply_literal_iff parseUUID hschema _ _ _
  · refine iff_of_false (fun hok => ?_) fun h => hnamed h.1
    obtain ⟨p, rest, rfl⟩ := List.exists_cons_of_ne_nil hne
    push Not at hnamed
    obtain ⟨bad, hbad, hop⟩ := hnamed
    obtain ⟨front, after, rfl⟩ := List.append_of_mem hbad
    have htext : (p :: (front ++ bad :: after)).map (fun p => (p.1.filterName, p.2)) =
        ((p :: front).map fun p => (p.1.filterName, p.2)) ++
          (bad.1.filterName, bad.2) :: after.map fun p => (p.1.filterName, p.2) := by simp
    have hfront : ∀ r ∈ (p :: front).map fun p => (p.1.filterName, p.2), PlainName r.1 := by
      intro r hr
      obtain ⟨r', hr', rfl⟩ := List.mem_map.1 hr
      exact hplain r' (by
        rw [← List.cons_append]
        exact List.mem_append_left _ hr')
    rw [htext] at hok
    cases hparse : Cmk.parseFilter (filterText (((p :: front).map fun p => (p.1.filterName, p.2)) ++
        (bad.1.filterName, bad.2) :: after.map fun p => (p.1.filterName, p.2))) with
    | error e =>
      rw [QueryOdataMapper.parseFilter, hparse] at hok
      cases hok
    | ok fields => exact parseFilter_operationName hfront (by simp) hop fields hparse

end RoundTrip

namespace Sample

def stringField (name : String) : FilterSchemaEntry Unit where
  filterName := ascii name
  filterType := .string
  dbName := name
  dbQuery := none
  valueModifier := none
  valueValidator := none

theorem stringField_plain : ∀ e ∈ ["name", "or"].map stringField, e.Plain := by
  intro e he
  simp only [map_cons, map_nil, mem_cons, not_mem_nil, or_false] at he
  rcases he with rfl | rfl
  · exact ⟨by decide, rfl, rfl, rfl⟩
  · exact ⟨by decide, rfl, rfl, rfl⟩

/-- A value with a quote and an `and`, after a field that is called like an operation. -/
theorem round_trip_of_escaped :
    (⟨["name", "or"].map stringField, []⟩ : QueryOdataMapper Unit).parseFilter
        (fun _ => .ok UUID.nil)
        (some (filterText [(ascii "or", ascii "x"), (ascii "name", ascii " it's and ")])) =
      .ok ⟨["name", "or"].map stringField,
        [("or", .string (ascii "x")), ("name", .string (ascii " it's and "))]⟩ := by
  refine (filter_round_trip_iff (fun _ => .ok UUID.nil) ⟨["name", "or"].map stringField, []⟩
    stringField_plain [(stringField "or", ascii "x"), (stringField "name", ascii " it's and ")]
    (by simp) (by simp)).2 ⟨by decide, ?_⟩
  intro p hp
  simp only [List.mem_cons, List.not_mem_nil, or_false] at hp
  rcases hp with rfl | rfl
  · exact ⟨stringField "or", rfl, rfl⟩
  · exact ⟨stringField "name", rfl, rfl⟩

/-- After an `and` the name `or` is taken for the operation. -/
theorem field_read_as_operation :
    (⟨["name", "or"].map stringField, []⟩ : QueryOdataMapper Unit).parseFilter
        (fun _ => .ok UUID.nil)
        (some (filterText [(ascii "name", ascii "x"), (ascii "or", ascii "y")])) =
      .error (.of .errFilterOperationNotSupported) := rfl

end Sample

end Cmk
