import Cmk.Odata.Bytes
import Cmk.Store

/-!
# Cmk.Odata.Parser

The filter parser of `utils/odata`: a filter is a list of comparisons `field eq value`, joined by
`and`. The parser walks over the filter, counts quotes to know when it is inside a string, and
looks ahead for an operation at every other place.

- `scan`, `splitBooleanOperations`: where the filter is split.
- `splitComparisonOperation`, `FilterSchemaEntry.apply`: what becomes of each part.
- `QueryOdataMapper.parseFilter`: the whole.
-/

namespace Cmk

open Bytes

def nonSupportedOperations : List Bytes :=
  [" or ", " not ", " ne ", " gt ", " ge ", " lt ", " le ", "(", ")"].map ascii

def andOp : Bytes := ascii " and "

def eqOp : Bytes := ascii " eq "

def startsWithOp (slicedFilterParam op : Bytes) : Bool := op.isPrefixOf slicedFilterParam

/-- Is there a next byte, and is it a quote or white space? -/
def nextLegal : Bytes → Bool
  | _ :: b :: _ => b = quote || isSpace b
  | _ => false

/-- Is there an `and` here? The flag, whether a comparison has been found since the last `and`, is
returned with the answer. -/
def checkFilterForOperation (splitOdataFilter : Bytes) (properDyadFound : Bool) :
    Except Exn (Bool × Bool) :=
  if nextLegal splitOdataFilter then .ok (false, properDyadFound)
  else if startsWithOp splitOdataFilter andOp then .ok (true, false)
  else if startsWithOp splitOdataFilter eqOp then
    if properDyadFound then .error (.of .errFilterNotToSpec) else .ok (false, true)
  else if nonSupportedOperations.any (startsWithOp splitOdataFilter) then
    .error (.of .errFilterOperationNotSupported)
  else .ok (false, properDyadFound)

structure Scan where
  quoteCount : Nat
  boolOpIndices : List Nat
  properDyadFound : Bool
  deriving DecidableEq, Repr

/-- One round of the loop, at byte `i`, with the filter from there on. -/
def Scan.step (i : Nat) (s : Scan) : Bytes → Except Exn Scan
  | [] => .ok s
  | c :: rest =>
    if c = quote then .ok { s with quoteCount := s.quoteCount + 1 }
    else if s.quoteCount % 2 = 0 then
      match checkFilterForOperation (c :: rest) s.properDyadFound with
      | .error e => .error e
      | .ok (found, properDyadFound) =>
        .ok { s with
          boolOpIndices := if found then s.boolOpIndices ++ [i] else s.boolOpIndices
          properDyadFound := properDyadFound }
    else .ok s

/-- The loop goes from rune to rune; `skip` bytes of the current one are left. -/
def scan : Nat → Nat → Bytes → Scan → Except Exn Scan
  | _, _, [], s => .ok s
  | i, skip + 1, _ :: rest, s => scan (i + 1) skip rest s
  | i, 0, c :: rest, s =>
    match s.step i (c :: rest) with
    | .error e => .error e
    | .ok s => scan (i + 1) (runeWidth (c :: rest) - 1) rest s

/-- `splitBooleanOperandsFromIndices`, from the last split on. -/
def splitBooleanOperandsFromIndices (param : Bytes) : Nat → List Nat → Except Exn (List Bytes)
  | lastSplitIndex, [] => do return [← param.slice lastSplitIndex param.length]
  | lastSplitIndex, andOpIndex :: boolOpIndices => do
    let splitAnd ← param.slice lastSplitIndex andOpIndex
    let booleanOperands ←
      splitBooleanOperandsFromIndices param (andOpIndex + andOp.length) boolOpIndices
    return splitAnd :: booleanOperands

def splitBooleanOperations (odataFilter : Bytes) : Except Exn (List Bytes) :=
  match scan 0 0 odataFilter ⟨0, [], false⟩ with
  | .error e => .error e
  | .ok s =>
    if s.quoteCount % 2 = 1 then .error (.of .errFilterNotToSpec)
    else splitBooleanOperandsFromIndices odataFilter 0 s.boolOpIndices

def splitComparisonOperation (odataFilterOp : Bytes) : Except Exn (Bytes × Bytes) :=
  match splitFirst eqOp odataFilterOp with
  | none => .error (.of .errFilterNotToSpec)
  | some (field, value) =>
    -- a string literal that starts before the operation
    if quote ∈ odataFilterOp.take field.length then .error (.of .errFilterNotToSpec)
    else .ok (trimSpace field, trimSpace value)

def splitComparisonOperations : List Bytes → Except Exn (List (Bytes × Bytes))
  | [] => .ok []
  | comparisonOperation :: rest => do
    let fieldValue ← splitComparisonOperation comparisonOperation
    let parsed ← splitComparisonOperations rest
    return fieldValue :: parsed

/-- `parseFilter`: the fields and values of a filter, in order. -/
def parseFilter (odataFilter : Bytes) : Except Exn (List (Bytes × Bytes)) :=
  if odataFilter = [] then .ok []
  else do splitComparisonOperations (← splitBooleanOperations odataFilter)

inductive FilterType where
  | string | bool | int | uuid
  /-- Any other text. -/
  | unknown (s : String)
  deriving DecidableEq, Repr

inductive FilterValue where
  | string (s : Bytes)
  | uuid (id : UUID)
  | bool (b : Bool)
  | int (n : Int)
  deriving DecidableEq, Repr

abbrev ParseUUID := Bytes → Except Err UUID

/-- The loop of `convertString`: quotes come in pairs. It goes over runes, which are the bytes as
far as quotes are concerned. -/
def checkQuotes : Nat → Bytes → Except Exn Unit
  | _, [] => .ok ()
  | cnt, c :: rest =>
    if c = quote then checkQuotes (cnt + 1) rest
    else if cnt % 2 ≠ 0 then .error (.of .errFilterNotToSpec)
    else checkQuotes 0 rest

def convertString (odataValue : Bytes) : Except Exn Bytes := do
  checkQuotes 0 odataValue
  return unescape odataValue

def convertUUID (parseUUID : ParseUUID) (value : Bytes) : Except Exn UUID := do
  let str ← convertString value
  match parseUUID str with
  | .ok id => return id
  | .error e => throw (.wrap .errFilterValueConversionFailed (.err e))

/-- Of the texts that are let through, none can fail in `strconv.ParseBool`. -/
def convertBool (value : Bytes) : Except Exn Bool :=
  if value = ascii "true" then .ok true
  else if value = ascii "false" then .ok false
  else .error (.of .errFilterNotToSpec)

def convertInt (value : Bytes) : Except Exn Int :=
  match parseInt value with
  | some n => .ok n
  | none => .error (.of .errFilterNotToSpec)

def maxLengthValidator (maxLength : Nat) (s : Bytes) : Bool := s.length ≤ maxLength

structure FilterSchemaEntry (Q : Type) where
  filterName : Bytes
  filterType : FilterType
  dbName : String
  dbQuery : Option (Q → FilterValue → Q)
  valueModifier : Option (Bytes → Bytes × Bool)
  valueValidator : Option (Bytes → Bool)

namespace FilterSchemaEntry

variable {Q : Type} (fs : FilterSchemaEntry Q)

def preProcessValue (odataValue : Bytes) : Except Exn Bytes :=
  if fs.filterType = .string ∨ fs.filterType = .uuid then
    if odataValue.length < 2 ∨ odataValue.head? ≠ some quote ∨ odataValue.getLast? ≠ some quote then
      .error (.of .errFilterNotToSpec)
    else odataValue.slice 1 (odataValue.length - 1)
  else .ok odataValue

def modify (preProcessedOdataValue : Bytes) : Except Exn Bytes :=
  match fs.valueModifier with
  | none => .ok preProcessedOdataValue
  | some valueModifier =>
    match valueModifier preProcessedOdataValue with
    | (modifiedOdataValue, true) => .ok modifiedOdataValue
    | (_, false) => .error (.of .errFilterValueModificationFailed)

def convert (parseUUID : ParseUUID) (modifiedOdataValue : Bytes) : Except Exn FilterValue :=
  match fs.filterType with
  | .string => return .string (← convertString modifiedOdataValue)
  | .uuid => return .uuid (← convertUUID parseUUID modifiedOdataValue)
  | .bool => return .bool (← convertBool modifiedOdataValue)
  | .int => return .int (← convertInt modifiedOdataValue)
  | .unknown _ => throw (.of .errFilterTypeNotSupported)

def apply (parseUUID : ParseUUID) (odataValue : Bytes) : Except Exn FilterValue := do
  let processedOdataValue ← fs.preProcessValue odataValue
  let processedOdataValue ← fs.modify processedOdataValue
  let convertedValue ← fs.convert parseUUID processedOdataValue
  match fs.valueValidator with
  | none => return convertedValue
  | some valueValidator =>
    if valueValidator processedOdataValue then return convertedValue
    else throw (.of .errFilterInvalidValue)

end FilterSchemaEntry

abbrev FilterSchema (Q : Type) := List (FilterSchemaEntry Q)

namespace FilterSchema

variable {Q : Type} (fs : FilterSchema Q) (parseUUID : ParseUUID)

def apply (odataField odataValue : Bytes) : Except Exn (String × FilterValue) :=
  match fs.find? fun entry => odataField = entry.filterName with
  | none => .error (.of .errFilterNonSchema)
  | some entry => do return (entry.dbName, ← entry.apply parseUUID odataValue)

def getEntryFromDBName (dbName : String) : Option (FilterSchemaEntry Q) :=
  fs.find? fun entry => entry.dbName = dbName

end FilterSchema

structure QueryOdataMapper (Q : Type) where
  filterSchema : FilterSchema Q
  parseFilterFields : List (String × FilterValue)

namespace QueryOdataMapper

variable {Q : Type} (parseUUID : ParseUUID)

/-- The loop of `ParseFilter`. -/
def setFieldValues (mf : QueryOdataMapper Q) : List (Bytes × Bytes) → Except Exn (QueryOdataMapper Q)
  | [] => .ok mf
  | (field, value) :: rest => do
    let converted ← mf.filterSchema.apply parseUUID field value
    setFieldValues { mf with parseFilterFields := mf.parseFilterFields ++ [converted] } rest

def parseFilter (mf : QueryOdataMapper Q) : Option Bytes → Except Exn (QueryOdataMapper Q)
  | none => .ok mf
  | some param => do mf.setFieldValues parseUUID (← Cmk.parseFilter param)

end QueryOdataMapper

end Cmk
