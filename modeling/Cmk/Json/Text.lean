import Mathlib.Data.List.Basic

/-!
# Cmk.Json.Text

JSON texts and their values.

* `lex`     — a machine over the characters. A string is a list of pieces: a piece is a character as it
  stands, or one of the escape sequences.
* `parse`   — a machine over the tokens, with a stack of the arrays and objects that are open.
* `pieces`  — the value of a text, with strings as they are written; `none` if the text is not JSON.
* `decode`  — what a string means; `value` is the value with strings that are decoded.

Objects are lists of members: a name may come twice, as in the text. The parser does not look into
strings, so it commutes with every function on them (`parse_map`).
-/

namespace Cmk

open List
namespace Json

section Machine

variable {σ ι ο : Type}

/-- The outputs of a machine that reads a list, and the state it ends in. -/
def run (step : σ → ι → Option (List ο × σ)) : σ → List ι → Option (List ο × σ)
  | s, [] => some ([], s)
  | s, c :: cs => do
    let (o, s) ← step s c
    let (os, s) ← run step s cs
    return (o ++ os, s)

variable {step : σ → ι → Option (List ο × σ)} {s s' s'' : σ}

theorem run_cons {c : ι} {cs : List ι} {o os : List ο} (h : step s c = some (o, s'))
    (hs : run step s' cs = some (os, s'')) : run step s (c :: cs) = some (o ++ os, s'') := by
  simp [run, h, hs]

theorem run_singleton {c : ι} {o : List ο} (h : step s c = some (o, s')) :
    run step s [c] = some (o, s') := by
  simp [run, h]

theorem run_cons_inv {c : ι} {cs : List ι} {os : List ο} (h : run step s (c :: cs) = some (os, s'')) :
    ∃ o s' os', step s c = some (o, s') ∧ run step s' cs = some (os', s'') ∧ os = o ++ os' := by
  simp only [run, Option.bind_eq_bind, Option.bind_eq_some_iff, Option.pure_def, Option.some.injEq,
    Prod.mk.injEq, Prod.exists] at h
  obtain ⟨o, s', hstep, os', s2, hrun, rfl, rfl⟩ := h
  exact ⟨o, s', os', hstep, hrun, rfl⟩

theorem run_append {cs cs' : List ι} {o o' : List ο} (h : run step s cs = some (o, s'))
    (h' : run step s' cs' = some (o', s'')) : run step s (cs ++ cs') = some (o ++ o', s'') := by
  induction cs generalizing s o with
  | nil =>
    cases h
    exact h'
  | cons c cs ih =>
    obtain ⟨o1, s1, os, hstep, hrun, rfl⟩ := run_cons_inv h
    rw [cons_append, append_assoc]
    exact run_cons hstep (ih hrun)

/-- If every symbol may be replaced by a list of symbols, so may every symbol of a text. -/
theorem run_flatMap {f : ι → List ι} {g : ο → ο} {φ : σ → σ}
    (hstep : ∀ s c o s', step s c = some (o, s') → run step (φ s) (f c) = some (o.map g, φ s'))
    {cs : List ι} {os : List ο} (h : run step s cs = some (os, s')) :
    run step (φ s) (cs.flatMap f) = some (os.map g, φ s') := by
  induction cs generalizing s os with
  | nil =>
    cases h
    rfl
  | cons c cs ih =>
    obtain ⟨o, s1, os, hs, hrun, rfl⟩ := run_cons_inv h
    rw [flatMap_cons, map_append]
    exact run_append (hstep s c o s1 hs) (ih hrun)

end Machine

inductive Escape where
  | quote | backslash | slash | b | f | n | r | t
  deriving DecidableEq, Repr

inductive Piece where
  | raw (c : Char)
  | escape (e : Escape)
  /-- `\uXXXX`, a code unit of UTF-16. -/
  | unit (n : Nat)
  deriving DecidableEq, Repr

inductive Token (S : Type) where
  | openBrace | closeBrace | openBracket | closeBracket | colon | comma
  | null
  | bool (b : Bool)
  | number (text : List Char)
  | string (s : S)
  deriving DecidableEq, Repr

namespace Token

def map {S T : Type} (f : S → T) : Token S → Token T
  | openBrace => openBrace
  | closeBrace => closeBrace
  | openBracket => openBracket
  | closeBracket => closeBracket
  | colon => colon
  | comma => comma
  | null => null
  | bool b => bool b
  | number text => number text
  | string s => string (f s)

end Token

def quote : Char := Char.ofNat 34

def backslash : Char := Char.ofNat 92

/-- Space, tab, line feed and carriage return. -/
def isWhitespace (c : Char) : Bool := c.toNat ∈ [32, 9, 10, 13]

/-- The characters of numbers and of `true`, `false` and `null`. -/
def isWordChar (c : Char) : Bool := c.isAlphanum || c = '+' || c = '-' || c = '.'

def isExponent : List Char → Bool
  | [] => true
  | e :: cs =>
    let digits := match cs with
      | sign :: cs' => if sign = '+' || sign = '-' then cs' else cs
      | [] => []
    (e = 'e' || e = 'E') && !digits.isEmpty && digits.all Char.isDigit

def isFraction : List Char → Bool
  | [] => true
  | c :: cs =>
    if c = '.' then !(cs.takeWhile Char.isDigit).isEmpty && isExponent (cs.dropWhile Char.isDigit)
    else isExponent (c :: cs)

/-- No zero stands before another digit of the integer part. -/
def isNumber (cs : List Char) : Bool :=
  let cs := if cs.head? = some '-' then cs.tail else cs
  let int := cs.takeWhile Char.isDigit
  !int.isEmpty && (int.head? != some '0' || int.length = 1) && isFraction (cs.dropWhile Char.isDigit)

def wordToken {S : Type} (w : List Char) : Option (Token S) :=
  if w = "null".toList then some .null
  else if w = "true".toList then some (.bool true)
  else if w = "false".toList then some (.bool false)
  else if isNumber w then some (.number w)
  else none

theorem wordToken_map {S : Type} {f : S → S} {w : List Char} {token : Token S}
    (h : wordToken w = some token) : token.map f = token := by
  unfold wordToken at h
  repeat' split at h
  all_goals
    cases h
    try rfl

inductive LexState where
  | start
  | word (w : List Char)
  | text (ps : List Piece)
  | escape (ps : List Piece)
  /-- `count` digits of an escape sequence have been read. -/
  | unicode (ps : List Piece) (count value : Nat)
  deriving DecidableEq, Repr

def hexDigit (c : Char) : Option Nat :=
  if c.isDigit then some (c.toNat - 48)
  else if 'a' ≤ c ∧ c ≤ 'f' then some (c.toNat - 87)
  else if 'A' ≤ c ∧ c ≤ 'F' then some (c.toNat - 55)
  else none

def escapeOf (c : Char) : Option Escape :=
  if c = quote then some .quote
  else if c = backslash then some .backslash
  else if c = '/' then some .slash
  else if c = 'b' then some .b
  else if c = 'f' then some .f
  else if c = 'n' then some .n
  else if c = 'r' then some .r
  else if c = 't' then some .t
  else none

def startStep (c : Char) : Option (List (Token (List Piece)) × LexState) :=
  if isWhitespace c then some ([], .start)
  else if c.toNat = 123 then some ([.openBrace], .start)
  else if c.toNat = 125 then some ([.closeBrace], .start)
  else if c = '[' then some ([.openBracket], .start)
  else if c = ']' then some ([.closeBracket], .start)
  else if c = ':' then some ([.colon], .start)
  else if c = ',' then some ([.comma], .start)
  else if c = quote then some ([], .text [])
  else if isWordChar c then some ([], .word [c])
  else none

/-- A control character cannot stand in a string. -/
def textStep (ps : List Piece) (c : Char) : Option (List (Token (List Piece)) × LexState) :=
  if c = quote then some ([.string ps], .start)
  else if c = backslash then some ([], .escape ps)
  else if c.toNat < 32 then none
  else some ([], .text (ps ++ [.raw c]))

def lexStep : LexState → Char → Option (List (Token (List Piece)) × LexState)
  | .start, c => startStep c
  | .word w, c =>
    if isWordChar c then some ([], .word (w ++ [c]))
    else do
      let token ← wordToken w
      let (tokens, s) ← startStep c
      return (token :: tokens, s)
  | .text ps, c => textStep ps c
  | .escape ps, c =>
    if c = 'u' then some ([], .unicode ps 0 0)
    else do
      let e ← escapeOf c
      return ([], .text (ps ++ [.escape e]))
  | .unicode ps count value, c => do
    let d ← hexDigit c
    if count = 3 then return ([], .text (ps ++ [.unit (value * 16 + d)]))
    else return ([], .unicode ps (count + 1) (value * 16 + d))

def lexEnd : LexState → Option (List (Token (List Piece)))
  | .start => some []
  | .word w => do return [← wordToken w]
  | _ => none

def lex (t : List Char) : Option (List (Token (List Piece))) := do
  let (tokens, s) ← run lexStep .start t
  let last ← lexEnd s
  return tokens ++ last

inductive Value (S : Type) where
  | null
  | bool (b : Bool)
  | number (text : List Char)
  | string (s : S)
  | array (vs : List (Value S))
  | object (members : List (S × Value S))

namespace Value

variable {S T : Type}

mutual

def map (f : S → T) : Value S → Value T
  | null => null
  | bool b => bool b
  | number text => number text
  | string s => string (f s)
  | array vs => array (mapElems f vs)
  | object members => object (mapMembers f members)

def mapElems (f : S → T) : List (Value S) → List (Value T)
  | [] => []
  | v :: vs => map f v :: mapElems f vs

def mapMembers (f : S → T) : List (S × Value S) → List (T × Value T)
  | [] => []
  | (name, v) :: members => (f name, map f v) :: mapMembers f members

end

mutual

def strings : Value S → List S
  | string s => [s]
  | array vs => elemStrings vs
  | object members => memberStrings members
  | _ => []

def elemStrings : List (Value S) → List S
  | [] => []
  | v :: vs => strings v ++ elemStrings vs

def memberStrings : List (S × Value S) → List S
  | [] => []
  | (name, v) :: members => name :: strings v ++ memberStrings members

end

@[simp] theorem mapElems_append (f : S → T) (vs ws : List (Value S)) :
    mapElems f (vs ++ ws) = mapElems f vs ++ mapElems f ws := by
  induction vs with
  | nil => rfl
  | cons v vs ih => rw [cons_append, mapElems, mapElems, ih, cons_append]

@[simp] theorem mapMembers_append (f : S → T) (ms ns : List (S × Value S)) :
    mapMembers f (ms ++ ns) = mapMembers f ms ++ mapMembers f ns := by
  induction ms with
  | nil => rfl
  | cons m ms ih => rw [cons_append, mapMembers, mapMembers, ih, cons_append]

mutual

theorem map_eq_map_iff {f g : S → T} : ∀ v : Value S, v.map f = v.map g ↔ ∀ s ∈ v.strings, f s = g s
  | null => by simp [map, strings]
  | bool b => by simp [map, strings]
  | number text => by simp [map, strings]
  | string s => by simp [map, strings]
  | array vs => by simp [map, strings, mapElems_eq_iff vs]
  | object members => by simp [map, strings, mapMembers_eq_iff members]

theorem mapElems_eq_iff {f g : S → T} : ∀ vs : List (Value S),
    mapElems f vs = mapElems g vs ↔ ∀ s ∈ elemStrings vs, f s = g s
  | [] => by simp [mapElems, elemStrings]
  | v :: vs => by
    simp only [mapElems, elemStrings, cons.injEq, map_eq_map_iff v, mapElems_eq_iff vs,
      mem_append, or_imp, forall_and]

theorem mapMembers_eq_iff {f g : S → T} : ∀ members : List (S × Value S),
    mapMembers f members = mapMembers g members ↔ ∀ s ∈ memberStrings members, f s = g s
  | [] => by simp [mapMembers, memberStrings]
  | (name, v) :: members => by
    simp only [mapMembers, memberStrings, cons.injEq, Prod.mk.injEq, map_eq_map_iff v,
      mapMembers_eq_iff members, mem_append, mem_cons, or_imp, forall_and, forall_eq]

end

mutual

theorem map_map {U : Type} (g : T → U) (f : S → T) : ∀ v : Value S, (v.map f).map g = v.map (g ∘ f)
  | null => rfl
  | bool _ => rfl
  | number _ => rfl
  | string _ => rfl
  | array vs => by rw [map, map, map, mapElems_mapElems g f vs]
  | object members => by rw [map, map, map, mapMembers_mapMembers g f members]

theorem mapElems_mapElems {U : Type} (g : T → U) (f : S → T) : ∀ vs : List (Value S),
    mapElems g (mapElems f vs) = mapElems (g ∘ f) vs
  | [] => rfl
  | v :: vs => by rw [mapElems, mapElems, mapElems, map_map g f v, mapElems_mapElems g f vs]

theorem mapMembers_mapMembers {U : Type} (g : T → U) (f : S → T) : ∀ members : List (S × Value S),
    mapMembers g (mapMembers f members) = mapMembers (g ∘ f) members
  | [] => rfl
  | (name, v) :: members => by
    rw [mapMembers, mapMembers, mapMembers, map_map g f v, mapMembers_mapMembers g f members]
    rfl

end

mutual

theorem strings_map (f : S → T) : ∀ v : Value S, (v.map f).strings = v.strings.map f
  | null => rfl
  | bool _ => rfl
  | number _ => rfl
  | string _ => rfl
  | array vs => by rw [map, strings, strings, elemStrings_map f vs]
  | object members => by rw [map, strings, strings, memberStrings_map f members]

theorem elemStrings_map (f : S → T) : ∀ vs : List (Value S),
    elemStrings (mapElems f vs) = (elemStrings vs).map f
  | [] => rfl
  | v :: vs => by
    rw [mapElems, elemStrings, elemStrings, map_append, strings_map f v, elemStrings_map f vs]

theorem memberStrings_map (f : S → T) : ∀ members : List (S × Value S),
    memberStrings (mapMembers f members) = (memberStrings members).map f
  | [] => rfl
  | (name, v) :: members => by
    rw [mapMembers, memberStrings, memberStrings, map_append, map_cons, strings_map f v,
      memberStrings_map f members]

end

end Value

/-- An array or an object around the value that is read next. -/
inductive Frame (S : Type) where
  | array (vs : List (Value S))
  | object (members : List (S × Value S)) (name : S)

/-- What comes next. -/
inductive Mode (S : Type) where
  | value
  /-- The first element of an array, or its end. -/
  | element
  /-- The first name in an object, or its end. -/
  | member
  | name (members : List (S × Value S))
  | colon (members : List (S × Value S)) (name : S)
  /-- A value has ended. -/
  | done (v : Value S)

abbrev ParseState (S : Type) := List (Frame S) × Mode S

section Parser

variable {S T : Type}

def valueStep (stack : List (Frame S)) : Token S → Option (ParseState S)
  | .openBrace => some (stack, .member)
  | .openBracket => some (stack, .element)
  | .null => some (stack, .done .null)
  | .bool b => some (stack, .done (.bool b))
  | .number text => some (stack, .done (.number text))
  | .string s => some (stack, .done (.string s))
  | _ => none

def doneStep (v : Value S) : List (Frame S) → Token S → Option (ParseState S)
  | .array vs :: stack, .comma => some (.array (vs ++ [v]) :: stack, .value)
  | .array vs :: stack, .closeBracket => some (stack, .done (.array (vs ++ [v])))
  | .object members name :: stack, .comma => some (stack, .name (members ++ [(name, v)]))
  | .object members name :: stack, .closeBrace =>
    some (stack, .done (.object (members ++ [(name, v)])))
  | _, _ => none

def parseStep : ParseState S → Token S → Option (ParseState S)
  | (stack, .value), token => valueStep stack token
  | (stack, .element), .closeBracket => some (stack, .done (.array []))
  | (stack, .element), token => valueStep (.array [] :: stack) token
  | (stack, .member), .closeBrace => some (stack, .done (.object []))
  | (stack, .member), .string name => some (stack, .colon [] name)
  | (stack, .name members), .string name => some (stack, .colon members name)
  | (stack, .colon members name), .colon => some (.object members name :: stack, .value)
  | (stack, .done v), token => doneStep v stack token
  | _, _ => none

def parseEnd : ParseState S → Option (Value S)
  | ([], .done v) => some v
  | _ => none

def parse (tokens : List (Token S)) : Option (Value S) := do
  parseEnd (← tokens.foldlM parseStep ([], .value))

namespace Frame

def map (f : S → T) : Frame S → Frame T
  | array vs => array (Value.mapElems f vs)
  | object members name => object (Value.mapMembers f members) (f name)

end Frame

def Mode.map (f : S → T) : Mode S → Mode T
  | value => value
  | element => element
  | member => member
  | name members => name (Value.mapMembers f members)
  | colon members k => colon (Value.mapMembers f members) (f k)
  | done v => done (v.map f)

def ParseState.map (f : S → T) (s : ParseState S) : ParseState T :=
  (List.map (Frame.map f) s.1, s.2.map f)

theorem valueStep_map (f : S → T) (stack : List (Frame S)) (token : Token S) :
    valueStep (stack.map (Frame.map f)) (token.map f) = (valueStep stack token).map (.map f) := by
  cases token <;> rfl

theorem doneStep_map (f : S → T) (v : Value S) (stack : List (Frame S)) (token : Token S) :
    doneStep (v.map f) (stack.map (Frame.map f)) (token.map f) =
      (doneStep v stack token).map (.map f) := by
  rcases stack with _ | ⟨frame, stack⟩
  · cases token <;> rfl
  · cases frame <;> cases token <;>
      simp [doneStep, Frame.map, Token.map, ParseState.map, Mode.map, Value.map, Value.mapElems,
        Value.mapMembers]

theorem parseStep_map (f : S → T) (s : ParseState S) (token : Token S) :
    parseStep (s.map f) (token.map f) = (parseStep s token).map (.map f) := by
  obtain ⟨stack, mode⟩ := s
  cases mode with
  | value => exact valueStep_map f stack token
  | element => cases token <;> rfl
  | member => cases token <;> rfl
  | name members => cases token <;> rfl
  | colon members name => cases token <;> rfl
  | done v => exact doneStep_map f v stack token

theorem parseEnd_map (f : S → T) (s : ParseState S) : parseEnd (s.map f) = (parseEnd s).map (.map f) := by
  obtain ⟨stack, mode⟩ := s
  cases stack <;> cases mode <;> rfl

theorem parse_map (f : S → T) (tokens : List (Token S)) :
    parse (tokens.map (.map f)) = (parse tokens).map (.map f) := by
  have hfold : ∀ s : ParseState S, (tokens.map (Token.map f)).foldlM parseStep (s.map f) =
      (tokens.foldlM parseStep s).map (.map f) := by
    induction tokens with
    | nil => exact fun s => rfl
    | cons token tokens ih =>
      intro s
      rw [map_cons, foldlM_cons, foldlM_cons, parseStep_map]
      cases parseStep s token with
      | none => rfl
      | some s' => exact ih s'
  unfold parse
  rw [show (([], .value) : ParseState T) = ParseState.map f ([], .value) from rfl, hfold]
  cases tokens.foldlM parseStep (([], .value) : ParseState S) with
  | none => rfl
  | some s => exact parseEnd_map f s

end Parser

def Escape.char : Escape → Char
  | .quote => Char.ofNat 34
  | .backslash => Char.ofNat 92
  | .slash => '/'
  | .b => Char.ofNat 8
  | .f => Char.ofNat 12
  | .n => Char.ofNat 10
  | .r => Char.ofNat 13
  | .t => Char.ofNat 9

def isHighSurrogate (n : Nat) : Bool := 0xD800 ≤ n && n < 0xDC00

def isLowSurrogate (n : Nat) : Bool := 0xDC00 ≤ n && n < 0xE000

/-- A code unit on its own; half a pair is replaced. -/
def unitChar (n : Nat) : Char :=
  if isHighSurrogate n || isLowSurrogate n then Char.ofNat 0xFFFD else Char.ofNat n

def decode : List Piece → List Char
  | [] => []
  | .raw c :: ps => c :: decode ps
  | .escape e :: ps => e.char :: decode ps
  | .unit n :: .unit n' :: ps =>
    if isHighSurrogate n && isLowSurrogate n' then
      Char.ofNat (0x10000 + (n - 0xD800) * 0x400 + (n' - 0xDC00)) :: decode ps
    else unitChar n :: decode (.unit n' :: ps)
  | .unit n :: ps => unitChar n :: decode ps

/-- The value of a text, with strings as they are written. -/
def pieces (t : String) : Option (Value (List Piece)) := do parse (← lex t.toList)

def value (t : String) : Option (Value String) := (pieces t).map (.map fun ps => String.ofList (decode ps))

end Json
end Cmk
