import Cmk.Json.Text
import Cmk.Sanitise

/-!
# Cmk.Sanitise.Text

`sanitiseJSON` replaces characters in a JSON text, not in the strings the text stands for. In a valid
text these characters stand in strings alone, so the text stays valid. A character that is written as
an escape sequence is not seen.

- `lex_entities`, `pieces_entities`: the strings of the new text, piece by piece.
- `decode_entities_iff`: what such a string decodes to.
- `sanitiseJSON_value_iff`: when the new text has the value it should have.
-/

namespace Cmk

open Json

variable {o : List (Token (List Piece))}

variable {c d : Char} {s s' : LexState} {n n' : Nat}

/-- The characters `sanitiseJSON` replaces. -/
def isSpecial (c : Char) : Bool := c = '&' || c = Char.ofNat 39 || c = '<' || c = '>'

def entity (c : Char) : List Char :=
  if c = '&' then "&amp;".toList
  else if c = Char.ofNat 39 then "&#39;".toList
  else if c = '<' then "&lt;".toList
  else if c = '>' then "&gt;".toList
  else [c]

def entities (s : String) : String := String.ofList (s.toList.flatMap entity)

theorem sanitiseJSON_eq (t : String) : sanitiseJSON t = entities t := rfl

theorem entity_plain (h : isSpecial c = false) : entity c = [c] := by
  simp only [isSpecial, Bool.or_eq_false_iff, decide_eq_false_iff_not] at h
  simp [entity, h]

theorem special_cases (h : isSpecial c = true) :
    c = '&' ∨ c = Char.ofNat 39 ∨ c = '<' ∨ c = '>' := by
  simpa [isSpecial, or_assoc] using h

/-- An entity is written with characters that mean nothing else in a string, and is longer than the
character. -/
theorem entity_special (h : isSpecial c = true) :
    (∀ d ∈ entity c, d ≠ quote ∧ d ≠ backslash ∧ ¬ d.toNat < 32) ∧ 1 < (entity c).length := by
  have hall : (entity c).all fun d => d ≠ quote ∧ d ≠ backslash ∧ ¬ d.toNat < 32 := by
    rcases special_cases h with rfl | rfl | rfl | rfl <;> decide
  refine ⟨fun d hd => of_decide_eq_true (List.all_eq_true.1 hall d hd), ?_⟩
  rcases special_cases h with rfl | rfl | rfl | rfl <;> decide

theorem entity_length (c : Char) : (if isSpecial c then 2 else 1) ≤ (entity c).length := by
  cases h : isSpecial c with
  | true => exact (entity_special h).2
  | false => simp [entity_plain h]

theorem entity_safe (h : d ∈ entity c) : d ≠ '<' ∧ d ≠ '>' ∧ d ≠ Char.ofNat 39 := by
  cases hs : isSpecial c with
  | true =>
    have hall : (entity c).all fun d => d ≠ '<' ∧ d ≠ '>' ∧ d ≠ Char.ofNat 39 := by
      rcases special_cases hs with rfl | rfl | rfl | rfl <;> decide
    exact of_decide_eq_true (List.all_eq_true.1 hall d h)
  | false =>
    rw [entity_plain hs, List.mem_singleton] at h
    subst h
    simp only [isSpecial, Bool.or_eq_false_iff, decide_eq_false_iff_not] at hs
    exact ⟨hs.1.2, hs.2, hs.1.1.2⟩

def entityPiece : Piece → List Piece
  | .raw c => (entity c).map .raw
  | p => [p]

def entityState : LexState → LexState
  | .start => .start
  | .word w => .word w
  | .text ps => .text (ps.flatMap entityPiece)
  | .escape ps => .escape (ps.flatMap entityPiece)
  | .unicode ps count value => .unicode (ps.flatMap entityPiece) count value

abbrev entityToken : Token (List Piece) → Token (List Piece) := Token.map (·.flatMap entityPiece)

theorem startStep_entities (h : startStep c = some (o, s)) :
    o.map entityToken = o ∧ entityState s = s := by
  unfold startStep at h
  repeat' split at h
  all_goals first | (cases h; exact ⟨rfl, rfl⟩) | cases h

theorem textStep_plain {ps : List Piece} (hc : isSpecial c = false)
    (h : textStep ps c = some (o, s)) :
    textStep (ps.flatMap entityPiece) c = some (o.map entityToken, entityState s) := by
  unfold textStep at h ⊢
  split at h
  · rename_i hq
    cases h
    rw [if_pos hq]
    rfl
  rename_i hq
  rw [if_neg hq]
  split at h
  · rename_i hb
    cases h
    rw [if_pos hb]
    rfl
  rename_i hb
  rw [if_neg hb]
  split at h
  · cases h
  rename_i hctl
  cases h
  rw [if_neg hctl]
  simp [entityState, entityPiece, entity_plain hc]

theorem lexStep_plain (hc : isSpecial c = false) (h : lexStep s c = some (o, s')) :
    lexStep (entityState s) c = some (o.map entityToken, entityState s') := by
  cases s with
  | start =>
    obtain ⟨ho, hs⟩ := startStep_entities h
    rw [ho, hs]
    exact h
  | word w =>
    rw [lexStep] at h
    rw [entityState, lexStep]
    split at h
    · rename_i hw
      cases h
      rw [if_pos hw]
      rfl
    · rename_i hw
      rw [if_neg hw]
      simp only [Option.bind_eq_bind, Option.bind_eq_some_iff, Option.pure_def, Option.some.injEq,
        Prod.mk.injEq, Prod.exists] at h ⊢
      obtain ⟨token, htoken, tokens, s1, hstart, rfl, rfl⟩ := h
      obtain ⟨ho, hs⟩ := startStep_entities hstart
      refine ⟨token, htoken, tokens, s1, hstart, ?_, hs.symm⟩
      rw [List.map_cons, ho, entityToken, wordToken_map htoken]
  | text ps => exact textStep_plain hc h
  | escape ps =>
    rw [lexStep] at h
    rw [entityState, lexStep]
    split at h
    · rename_i hu
      cases h
      rw [if_pos hu]
      rfl
    · rename_i hu
      rw [if_neg hu]
      simp only [Option.bind_eq_bind, Option.bind_eq_some_iff, Option.pure_def, Option.some.injEq,
        Prod.mk.injEq] at h ⊢
      obtain ⟨e, he, rfl, rfl⟩ := h
      exact ⟨e, he, rfl, by simp [entityState, entityPiece]⟩
  | unicode ps count value =>
    simp only [lexStep, entityState, Option.bind_eq_bind, Option.bind_eq_some_iff] at h ⊢
    obtain ⟨d, hd, h⟩ := h
    refine ⟨d, hd, ?_⟩
    split at h
    · rename_i hcount
      cases h
      rw [if_pos hcount]
      simp [entityPiece]
    · rename_i hcount
      cases h
      rw [if_neg hcount]
      rfl

theorem lexStep_special (hc : isSpecial c = true) (h : lexStep s c = some (o, s')) :
    ∃ ps, s = .text ps ∧ o = [] ∧ s' = .text (ps ++ [.raw c]) := by
  have hstart : startStep c = none := by
    rcases special_cases hc with rfl | rfl | rfl | rfl <;> decide
  have hword : isWordChar c = false := by
    rcases special_cases hc with rfl | rfl | rfl | rfl <;> decide
  have hescape : c ≠ 'u' ∧ escapeOf c = none := by
    rcases special_cases hc with rfl | rfl | rfl | rfl <;> decide
  have hhex : hexDigit c = none := by
    rcases special_cases hc with rfl | rfl | rfl | rfl <;> decide
  have htext : c ≠ quote ∧ c ≠ backslash ∧ ¬ c.toNat < 32 := by
    rcases special_cases hc with rfl | rfl | rfl | rfl <;> decide
  cases s with
  | start => simp [lexStep, hstart] at h
  | word w => simp [lexStep, hstart, hword] at h
  | text ps =>
    simp only [lexStep, textStep, htext, if_false, Option.some.injEq, Prod.mk.injEq] at h
    exact ⟨ps, rfl, h.1.symm, h.2.symm⟩
  | escape ps => simp [lexStep, hescape] at h
  | unicode ps count value => simp [lexStep, hhex] at h

theorem run_text {cs : List Char} (h : ∀ d ∈ cs, d ≠ quote ∧ d ≠ backslash ∧ ¬ d.toNat < 32)
    (ps : List Piece) : run lexStep (.text ps) cs = some ([], .text (ps ++ cs.map .raw)) := by
  induction cs generalizing ps with
  | nil => simp [run]
  | cons c cs ih =>
    rw [List.forall_mem_cons] at h
    have hstep : lexStep (.text ps) c = some ([], .text (ps ++ [.raw c])) := by
      simp [lexStep, textStep, h.1]
    have hrun := run_cons hstep (ih h.2 (ps ++ [.raw c]))
    simpa using hrun

theorem lexStep_entity (h : lexStep s c = some (o, s')) :
    run lexStep (entityState s) (entity c) = some (o.map entityToken, entityState s') := by
  cases hc : isSpecial c with
  | false =>
    rw [entity_plain hc]
    exact run_singleton (lexStep_plain hc h)
  | true =>
    obtain ⟨ps, rfl, rfl, rfl⟩ := lexStep_special hc h
    rw [entityState, run_text (entity_special hc).1]
    simp [entityState, entityPiece]

theorem lexEnd_entities {last : List (Token (List Piece))} (h : lexEnd s = some last) :
    lexEnd (entityState s) = some (last.map entityToken) := by
  cases s with
  | start =>
    cases h
    rfl
  | word w =>
    simp only [lexEnd, Option.bind_eq_bind, Option.bind_eq_some_iff, Option.pure_def,
      Option.some.injEq] at h
    obtain ⟨token, htoken, rfl⟩ := h
    rw [List.map_singleton, entityToken, wordToken_map htoken]
    simp [entityState, lexEnd, htoken]
  | text ps => cases h
  | escape ps => cases h
  | unicode ps count value => cases h

theorem lex_entities {t : List Char} {tokens : List (Token (List Piece))} (h : lex t = some tokens) :
    lex (t.flatMap entity) = some (tokens.map entityToken) := by
  simp only [lex, Option.bind_eq_bind, Option.bind_eq_some_iff, Option.pure_def, Option.some.injEq,
    Prod.exists] at h ⊢
  obtain ⟨o, s, hrun, last, hlast, rfl⟩ := h
  refine ⟨o.map entityToken, entityState s, ?_, last.map entityToken, lexEnd_entities hlast,
    (List.map_append ..).symm⟩
  exact run_flatMap (s := .start) (φ := entityState) (fun s c o s' h => lexStep_entity h) hrun

theorem pieces_entities {t : String} {v : Value (List Piece)} (h : pieces t = some v) :
    pieces (entities t) = some (v.map (·.flatMap entityPiece)) := by
  simp only [pieces, Option.bind_eq_bind, Option.bind_eq_some_iff] at h ⊢
  obtain ⟨tokens, hlex, hparse⟩ := h
  refine ⟨tokens.map entityToken, ?_, ?_⟩
  · rw [entities, String.toList_ofList]
    exact lex_entities hlex
  · rw [parse_map, hparse]
    rfl

/-- A character that is replaced, written as an escape sequence. -/
def hidesSpecial : Piece → Bool
  | .unit n => isSpecial (unitChar n)
  | _ => false

theorem isSpecial_escape (e : Escape) : isSpecial e.char = false := by
  cases e <;> decide

theorem isSpecial_surrogate (h : isHighSurrogate n || isLowSurrogate n) :
    isSpecial (unitChar n) = false := by
  rw [unitChar, if_pos h]
  decide

theorem isSpecial_large (h : 128 ≤ n) (hvalid : n.isValidChar) :
    isSpecial (Char.ofNat n) = false := by
  have htoNat : (Char.ofNat n).toNat = n := by
    unfold Char.ofNat
    rw [dif_pos hvalid]
    rfl
  have hne : ∀ c : Char, c.toNat < 128 → Char.ofNat n ≠ c := by
    rintro c hc rfl
    omega
  simp only [isSpecial, Bool.or_eq_false_iff, decide_eq_false_iff_not]
  exact ⟨⟨⟨hne _ (by decide), hne _ (by decide)⟩, hne _ (by decide)⟩, hne _ (by decide)⟩

theorem isSpecial_pair (h : isHighSurrogate n && isLowSurrogate n') :
    isSpecial (Char.ofNat (0x10000 + (n - 0xD800) * 0x400 + (n' - 0xDC00))) = false := by
  simp only [isHighSurrogate, isLowSurrogate, Bool.and_eq_true, decide_eq_true_eq] at h
  refine isSpecial_large (by omega) ?_
  unfold Nat.isValidChar
  omega

theorem decode_raws (cs : List Char) (ps : List Piece) :
    decode (cs.map .raw ++ ps) = cs ++ decode ps := by
  induction cs with
  | nil => rfl
  | cons c cs ih => rw [List.map_cons, List.cons_append, decode, ih, List.cons_append]

theorem decode_unit {ps : List Piece} (h : ∀ n' ps', ps ≠ .unit n' :: ps') :
    decode (.unit n :: ps.flatMap entityPiece) =
      unitChar n :: decode (ps.flatMap entityPiece) := by
  refine decode.eq_5 n _ ?_
  intro n' ps' heq
  cases ps with
  | nil => cases heq
  | cons p ps =>
    cases p with
    | raw c =>
      have hlength := entity_length c
      rw [List.flatMap_cons, entityPiece] at heq
      cases hc : entity c with
      | nil => rw [hc] at hlength; split at hlength <;> cases hlength
      | cons d ds => simp [hc] at heq
    | escape e => cases heq
    | unit m => exact h m ps rfl

/-- A string before and after the replacement, piece by piece. A pair of surrogates is one after the
replacement and no other pair is. -/
theorem decode_entities_induct {motive : List Piece → List Char → List Char → Prop}
    (nil : motive [] [] [])
    (raw : ∀ c ps cs cs', motive ps cs cs' → motive (.raw c :: ps) (c :: cs) (entity c ++ cs'))
    (escape : ∀ e ps cs cs', motive ps cs cs' →
      motive (.escape e :: ps) (e.char :: cs) (e.char :: cs'))
    (unit : ∀ n ps cs cs', motive ps cs cs' →
      motive (.unit n :: ps) (unitChar n :: cs) (unitChar n :: cs'))
    (pair : ∀ n n' c ps cs cs', hidesSpecial (.unit n) = false → hidesSpecial (.unit n') = false →
      isSpecial c = false → motive ps cs cs' →
      motive (.unit n :: .unit n' :: ps) (c :: cs) (c :: cs'))
    (ps : List Piece) : motive ps (decode ps) (decode (ps.flatMap entityPiece)) := by
  induction ps using decode.induct with
  | case1 => exact nil
  | case2 c ps ih =>
    rw [decode, List.flatMap_cons, entityPiece, decode_raws]
    exact raw c ps _ _ ih
  | case3 e ps ih => exact escape e ps _ _ ih
  | case4 n n' ps h ih =>
    have ⟨hn, hn'⟩ := Bool.and_eq_true_iff.1 h
    simp only [List.flatMap_cons, entityPiece, List.singleton_append, decode, if_pos h]
    exact pair n n' _ ps _ _ (isSpecial_surrogate (by simp [hn])) (isSpecial_surrogate (by simp [hn']))
      (isSpecial_pair h) ih
  | case5 n n' ps h ih =>
    simp only [List.flatMap_cons, entityPiece, List.singleton_append, decode, if_neg h] at ih ⊢
    exact unit n _ _ _ ih
  | case6 n ps h ih =>
    rw [decode.eq_5 n ps h, List.flatMap_cons, show entityPiece (.unit n) = [.unit n] from rfl,
      List.singleton_append, decode_unit h]
    exact unit n ps _ _ ih

theorem decode_entities (ps : List Piece) : (∀ p ∈ ps, hidesSpecial p = false) →
    decode (ps.flatMap entityPiece) = (decode ps).flatMap entity := by
  induction ps using decode_entities_induct with
  | nil => exact fun _ => rfl
  | raw c ps cs cs' ih =>
    intro h
    rw [List.flatMap_cons, ih (List.forall_mem_cons.1 h).2]
  | escape e ps cs cs' ih =>
    intro h
    rw [List.flatMap_cons, entity_plain (isSpecial_escape e), ih (List.forall_mem_cons.1 h).2]
    rfl
  | unit n ps cs cs' ih =>
    intro h
    have ⟨hn, hps⟩ := List.forall_mem_cons.1 h
    rw [List.flatMap_cons, entity_plain hn, ih hps]
    rfl
  | pair n n' c ps cs cs' _ _ hc ih =>
    intro h
    rw [List.flatMap_cons, entity_plain hc, ih (List.forall_mem_cons.1 (List.forall_mem_cons.1 h).2).2]
    rfl

theorem decode_entities_length (ps : List Piece) :
    (decode (ps.flatMap entityPiece)).length + ps.countP hidesSpecial ≤
      ((decode ps).flatMap entity).length := by
  induction ps using decode_entities_induct with
  | nil => exact le_rfl
  | raw c ps cs cs' ih =>
    rw [List.countP_cons_of_neg (by simp [hidesSpecial]), List.flatMap_cons, List.length_append,
      List.length_append]
    omega
  | escape e ps cs cs' ih =>
    have hlength := entity_length e.char
    rw [isSpecial_escape] at hlength
    rw [List.countP_cons_of_neg (by simp [hidesSpecial]), List.flatMap_cons, List.length_append,
      List.length_cons]
    simp only [Bool.false_eq_true, ↓reduceIte] at hlength
    omega
  | unit n ps cs cs' ih =>
    have hlength := entity_length (unitChar n)
    rw [List.countP_cons, List.flatMap_cons, List.length_append, List.length_cons, hidesSpecial]
    cases hspecial : isSpecial (unitChar n) <;>
      simp only [hspecial, Bool.false_eq_true, ↓reduceIte] at hlength ⊢ <;> omega
  | pair n n' c ps cs cs' hn hn' _ ih =>
    have hlength := entity_length c
    rw [List.countP_cons_of_neg (by simp [hn]), List.countP_cons_of_neg (by simp [hn']),
      List.flatMap_cons, List.length_append, List.length_cons]
    split at hlength <;> omega

theorem decode_entities_iff (ps : List Piece) :
    decode (ps.flatMap entityPiece) = (decode ps).flatMap entity ↔
      ∀ p ∈ ps, hidesSpecial p = false := by
  constructor
  · intro h
    have hlength := decode_entities_length ps
    rw [h] at hlength
    have hcount : ps.countP hidesSpecial = 0 := by omega
    simpa using List.countP_eq_zero.1 hcount
  · exact decode_entities ps

/-- The value of the text after the replacement is the value before it with its strings and keys
replaced. -/
def TextSanitised (t : String) : Prop :=
  ∃ v, value t = some v ∧ value (sanitiseJSON t) = some (v.map entities) ∧
    ∀ s ∈ (v.map entities).strings, ∀ c ∈ s.toList, c ≠ '<' ∧ c ≠ '>' ∧ c ≠ Char.ofNat 39

theorem entities_safe (v : Value String) : ∀ s ∈ (v.map entities).strings,
    ∀ c ∈ s.toList, c ≠ '<' ∧ c ≠ '>' ∧ c ≠ Char.ofNat 39 := by
  rw [Value.strings_map]
  intro s hs c hc
  obtain ⟨s0, _, rfl⟩ := List.mem_map.1 hs
  rw [entities, String.toList_ofList] at hc
  obtain ⟨d, _, hd⟩ := List.mem_flatMap.1 hc
  exact entity_safe hd

/-- A valid text stays valid, and its value is sanitised if no string of it writes a character to
replace as an escape sequence. -/
theorem sanitiseJSON_value_iff {t : String} {v : Value (List Piece)} (h : pieces t = some v) :
    (value (sanitiseJSON t)).isSome ∧
      (TextSanitised t ↔ ∀ ps ∈ v.strings, ∀ p ∈ ps, hidesSpecial p = false) := by
  have hvalue : value t = some (v.map fun ps => String.ofList (decode ps)) := by
    rw [value, h, Option.map_some]
  have hsanitised : value (sanitiseJSON t) =
      some (v.map fun ps => String.ofList (decode (ps.flatMap entityPiece))) := by
    rw [sanitiseJSON_eq, value, pieces_entities h, Option.map_some, Value.map_map]
    rfl
  have hstring : ∀ ps, String.ofList (decode (ps.flatMap entityPiece)) =
      entities (String.ofList (decode ps)) ↔ ∀ p ∈ ps, hidesSpecial p = false := by
    intro ps
    rw [entities, String.toList_ofList, String.ofList_inj, decode_entities_iff]
  refine ⟨by rw [hsanitised]; rfl, ?_⟩
  constructor
  · rintro ⟨w, hw, heq, _⟩
    rw [hvalue, Option.some.injEq] at hw
    subst hw
    rw [hsanitised, Option.some.injEq, Value.map_map, Value.map_eq_map_iff] at heq
    exact fun ps hps => (hstring ps).1 (heq ps hps)
  · intro hplain
    refine ⟨_, hvalue, ?_, entities_safe _⟩
    rw [hsanitised, Option.some.injEq, Value.map_map, Value.map_eq_map_iff]
    exact fun ps hps => (hstring ps).2 (hplain ps hps)

/-- The string with `<` as an escape sequence, as a text. -/
def Sample.escapedText : String :=
  String.ofList [quote, backslash, 'u', '0', '0', '3', 'c', quote]

theorem tag_in_array_sanitised : TextSanitised (String.ofList ['[', quote, '<', quote, ']']) :=
  (sanitiseJSON_value_iff (t := String.ofList ['[', quote, '<', quote, ']'])
    (v := .array [.string [.raw '<']]) rfl).2.2 (by decide)

/-- The escape sequence is left as it is, and decodes to `<`. -/
theorem Sample.escaped_tag_kept : pieces Sample.escapedText = some (.string [.unit 0x3c]) ∧
    sanitiseJSON Sample.escapedText = Sample.escapedText ∧
    value (sanitiseJSON Sample.escapedText) = some (.string "<") ∧
    ¬ TextSanitised Sample.escapedText := by
  have hvalue : value Sample.escapedText = some (.string "<") := by rfl
  have hsame : sanitiseJSON Sample.escapedText = Sample.escapedText := by decide +kernel
  refine ⟨by rfl, hsame, by rw [hsame, hvalue], ?_⟩
  rintro ⟨v, hv, heq, _⟩
  rw [hvalue, Option.some.injEq] at hv
  subst hv
  rw [hsame, hvalue] at heq
  simp only [Value.map, Option.some.injEq, Value.string.injEq] at heq
  revert heq
  decide +kernel

end Cmk
