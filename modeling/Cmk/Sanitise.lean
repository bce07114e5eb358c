import Cmk.Errors
import Mathlib.Data.List.Forall2
import Mathlib.Data.Option.Basic

/-!
# Cmk.Sanitise

`utils/sanitise`: before a value is shown, the policy is applied to every string in it. The code
walks a value by reflection, so it is a recursion over the type; a value here is an element of the
type it has (`GoType.Val`). Values are finite, so a recursive struct type is one of its unrollings.

- `sanitize`, `sanitiseStruct`, `sanitiseMap`: the walk as the code has it.
- `Sanitised`: what a value has to be afterwards.
- `Ordered`: types in which nothing to sanitise comes after a field the walk stops at.
- `sanitize_complete_iff`: these are the types for which the walk is complete.
-/

namespace Cmk

open List

variable {s : String}

def parseBool (s : String) : Option Bool :=
  if s ∈ ["1", "t", "T", "TRUE", "true", "True"] then some true
  else if s ∈ ["0", "f", "F", "FALSE", "false", "False"] then some false
  else none

/-- `tags.Get`, of the value of the tag. Where a name is set twice, the later one comes first. -/
def tagsGet (tagValue : String) : Except Exn (List (String × String)) :=
  if tagValue = "" then .ok []
  else (tagValue.toList.splitOn ';').foldlM (fun tags repoTag =>
    match repoTag.splitOn ':' with
    | [name] => .ok ((String.ofList name, "") :: tags)
    | [name, value] => .ok ((String.ofList name, String.ofList value) :: tags)
    | _ => .error (.of .errBadRepoTag)) []

def checkBool (tags : List (String × String)) (tagName : String) (defaultValue : Bool) :
    Except Exn Bool :=
  match tags.lookup tagName with
  | none => .ok defaultValue
  | some tagValue =>
    match parseBool tagValue with
    | some b => .ok b
    | none => .error (.wrap .errBadRepoTag (.err (.foreign
        ("strconv.ParseBool: parsing \"" ++ tagValue ++ "\": invalid syntax"))))

structure StructField where
  name : String
  exported : Bool
  repoTag : String := ""
  deriving DecidableEq, Repr

def checkSanitiseTag (field : StructField) : Except Exn Bool := do
  checkBool (← tagsGet field.repoTag) "sanitise" true

mutual

inductive GoType where
  | string
  | rawMessage
  /-- Numbers, booleans and whatever else holds no text. -/
  | other
  | pointer (t : GoType)
  /-- Slices and arrays. -/
  | slice (t : GoType)
  | struct (fs : GoFields)
  | map (k v : GoType)

inductive GoFields where
  | nil
  | cons (f : StructField) (t : GoType) (fs : GoFields)

end

mutual

/-- The values of a type. A nil map is `none`; the entries of another stand in the order
`MapKeys` gives them. -/
def GoType.Val : GoType → Type
  | .string => String
  | .rawMessage => String
  | .other => Nat
  | .pointer t => Option t.Val
  | .slice t => List t.Val
  | .struct fs => fs.Vals
  | .map k v => Option (List (k.Val × v.Val))

def GoFields.Vals : GoFields → Type
  | .nil => Unit
  | .cons _ t fs => t.Val × fs.Vals

end

mutual

def GoType.decEq : (t : GoType) → DecidableEq t.Val
  | .string => inferInstanceAs (DecidableEq String)
  | .rawMessage => inferInstanceAs (DecidableEq String)
  | .other => inferInstanceAs (DecidableEq Nat)
  | .pointer t => have := t.decEq; inferInstanceAs (DecidableEq (Option t.Val))
  | .slice t => have := t.decEq; inferInstanceAs (DecidableEq (List t.Val))
  | .struct fs => fs.decEq
  | .map k v => have := k.decEq; have := v.decEq
    inferInstanceAs (DecidableEq (Option (List (k.Val × v.Val))))

def GoFields.decEq : (fs : GoFields) → DecidableEq fs.Vals
  | .nil => inferInstanceAs (DecidableEq Unit)
  | .cons _ t fs => have := t.decEq; have := fs.decEq
    inferInstanceAs (DecidableEq (t.Val × fs.Vals))

end

instance (t : GoType) : DecidableEq t.Val := t.decEq

mutual

def GoType.zero : (t : GoType) → t.Val
  | .string => ""
  | .rawMessage => ""
  | .other => (0 : Nat)
  | .pointer _ => none
  | .slice _ => []
  | .struct fs => fs.zero
  | .map _ _ => none

def GoFields.zero : (fs : GoFields) → fs.Vals
  | .nil => ()
  | .cons _ t fs => (t.zero, fs.zero)

end

def sanitiseJSON (value : String) : String :=
  String.ofList (value.toList.flatMap fun c =>
    if c = '&' then "&amp;".toList
    else if c = Char.ofNat 39 then "&#39;".toList
    else if c = '<' then "&lt;".toList
    else if c = '>' then "&gt;".toList
    else [c])

def sanitiseSlice {α : Type} (elem : α → Except Exn α) : List α → Except Exn (List α)
  | [] => .ok []
  | v :: vs => do
    let v ← elem v
    let vs ← sanitiseSlice elem vs
    return v :: vs

/-- `SetMapIndex`: a second entry with the same key replaces the first. -/
def setMapIndex {κ β : Type} [DecidableEq κ] (m : List (κ × β)) (k : κ) (v : β) : List (κ × β) :=
  (k, v) :: m.filter fun e => e.1 ≠ k

def sanitiseMap {κ β : Type} [DecidableEq κ] (key : κ → Except Exn κ) (val : β → Except Exn β) :
    List (κ × β) → List (κ × β) → Except Exn (List (κ × β))
  | [], newMap => .ok newMap
  | (k, v) :: m, newMap => do
    let tmpKey ← key k
    let tmpVal ← val v
    sanitiseMap key val m (setMapIndex newMap tmpKey tmpVal)

/-- One round of the loop over the fields, with what it does to the field and what the rest of the
loop does to the others. It returns at a field that is unexported or switched off. -/
def sanitiseField {α β : Type} (f : StructField) (field : Except Exn α) (rest : Except Exn β) (v : α)
    (vs : β) : Except Exn (α × β) :=
  if f.exported = false then .ok (v, vs)
  else
    match checkSanitiseTag f with
    | .error e => .error e
    | .ok false => .ok (v, vs)
    | .ok true => do
      let v ← field
      let vs ← rest
      return (v, vs)

section Walk

variable (policy : String → String)

mutual

/-- `sanitize`: the value afterwards, if there is no error. -/
def sanitize : (t : GoType) → t.Val → Except Exn t.Val
  | .string, s => .ok (policy s)
  | .rawMessage, s => .ok (sanitiseJSON s)
  | .other, n => .ok n
  | .pointer _, none => .ok none
  | .pointer t, some v => do return some (← sanitize t v)
  | .slice t, vs => sanitiseSlice (sanitize t) vs
  | .struct fs, vs => sanitiseStruct fs vs
  | .map _ _, none => .ok none
  | .map k v, some m => do return some (← sanitiseMap (sanitize k) (sanitize v) m [])

def sanitiseStruct : (fs : GoFields) → fs.Vals → Except Exn fs.Vals
  | .nil, vs => .ok vs
  | .cons f t fs, (v, vs) => sanitiseField f (sanitize t v) (sanitiseStruct fs vs) v vs

end

def sanitizePointer (t : GoType) : Option t.Val → Except Exn t.Val
  | none => .error (.of .errNilPtr)
  | some v => sanitize policy t v

def StructField.isSanitised (f : StructField) : Bool :=
  f.exported && match checkSanitiseTag f with
    | .ok ok => ok
    | .error _ => false

/-- Every entry of the new map comes from one of the old, and every old key has one. -/
def SanitisedEntries {κ β : Type} (K : κ → κ → Prop) (V : β → β → Prop) (m m' : List (κ × β)) :
    Prop :=
  (∀ e' ∈ m', ∃ e ∈ m, K e.1 e'.1 ∧ V e.2 e'.2) ∧ ∀ e ∈ m, ∃ e' ∈ m', K e.1 e'.1

mutual

/-- Every string that is reached through exported fields is what the policy makes of it; the other
fields are as they were. -/
def Sanitised : (t : GoType) → t.Val → t.Val → Prop
  | .string, s, s' => s' = policy s
  | .rawMessage, s, s' => s' = sanitiseJSON s
  | .other, n, n' => n' = n
  | .pointer t, v, v' => Option.Rel (Sanitised t) v v'
  | .slice t, vs, vs' => List.Forall₂ (Sanitised t) vs vs'
  | .struct fs, vs, vs' => SanitisedFields fs vs vs'
  | .map k v, m, m' => Option.Rel (SanitisedEntries (Sanitised k) (Sanitised v)) m m'

def SanitisedFields : (fs : GoFields) → fs.Vals → fs.Vals → Prop
  | .nil, _, _ => True
  | .cons f t fs, (v, vs), (v', vs') =>
    (if f.isSanitised then Sanitised t v v' else v' = v) ∧ SanitisedFields fs vs vs'

end

end Walk

mutual

def GoType.hasText : GoType → Bool
  | .string => true
  | .rawMessage => true
  | .other => false
  | .pointer t => t.hasText
  | .slice t => t.hasText
  | .struct fs => fs.hasText
  | .map k v => k.hasText || v.hasText

def GoFields.hasText : GoFields → Bool
  | .nil => false
  | .cons f t fs => (f.isSanitised && t.hasText) || fs.hasText

end

mutual

/-- No text comes after a field that is unexported or switched off. -/
def GoType.ordered : GoType → Bool
  | .string => true
  | .rawMessage => true
  | .other => true
  | .pointer t => t.ordered
  | .slice t => t.ordered
  | .struct fs => fs.ordered
  | .map k v => k.ordered && v.ordered

def GoFields.ordered : GoFields → Bool
  | .nil => true
  | .cons f t fs => if f.isSanitised then t.ordered && fs.ordered else !fs.hasText

end

mutual

/-- The tags of exported fields can be read. -/
def GoType.tagged : GoType → Bool
  | .string => true
  | .rawMessage => true
  | .other => true
  | .pointer t => t.tagged
  | .slice t => t.tagged
  | .struct fs => fs.tagged
  | .map k v => k.tagged && v.tagged

def GoFields.tagged : GoFields → Bool
  | .nil => true
  | .cons f t fs => (!f.exported || (checkSanitiseTag f).isOk) && t.tagged && fs.tagged

end

theorem except_bind_ok {α β : Type} {x : Except Exn α} {f : α → Except Exn β} {b : β} :
    (x >>= f) = .ok b ↔ ∃ a, x = .ok a ∧ f a = .ok b := by
  cases x <;> simp [bind, Except.bind]

theorem except_pure_ok {α : Type} {a b : α} : (pure a : Except Exn α) = .ok b ↔ a = b := by
  simp [pure, Except.pure]

section Loops

variable {α κ β : Type}

theorem sanitiseSlice_ok {elem : α → Except Exn α} {R : α → α → Prop}
    (helem : ∀ v v', elem v = .ok v' → R v v') {vs vs' : List α}
    (h : sanitiseSlice elem vs = .ok vs') : List.Forall₂ R vs vs' := by
  induction vs generalizing vs' with
  | nil => cases h; exact .nil
  | cons v vs ih =>
    simp only [sanitiseSlice, except_bind_ok, except_pure_ok] at h
    obtain ⟨w, hw, ws, hws, rfl⟩ := h
    exact .cons (helem v w hw) (ih hws)

theorem sanitiseMap_ok [DecidableEq κ] {key : κ → Except Exn κ} {val : β → Except Exn β}
    {K : κ → κ → Prop} {V : β → β → Prop} (hkey : ∀ k k', key k = .ok k' → K k k')
    (hval : ∀ v v', val v = .ok v' → V v v') {m newMap m' : List (κ × β)}
    (h : sanitiseMap key val m newMap = .ok m') :
    (∀ e' ∈ m', e' ∈ newMap ∨ ∃ e ∈ m, K e.1 e'.1 ∧ V e.2 e'.2) ∧
      (∀ e ∈ m, ∃ e' ∈ m', K e.1 e'.1) ∧ ∀ e ∈ newMap, ∃ e' ∈ m', e'.1 = e.1 := by
  induction m generalizing newMap with
  | nil =>
    cases h
    exact ⟨fun e' he' => .inl he', by simp, fun e he => ⟨e, he, rfl⟩⟩
  | cons e m ih =>
    simp only [sanitiseMap, except_bind_ok] at h
    obtain ⟨k', hk, v', hv, h⟩ := h
    obtain ⟨hfrom, hold, hkept⟩ := ih h
    have hset : ∃ e' ∈ m', e'.1 = k' := hkept (k', v') (by simp [setMapIndex])
    refine ⟨fun e' he' => ?_, ?_, fun e0 he0 => ?_⟩
    · rcases hfrom e' he' with hmem | ⟨e1, he1, hr⟩
      · rcases mem_cons.1 hmem with rfl | hmem
        · exact .inr ⟨e, by simp, hkey _ _ hk, hval _ _ hv⟩
        · exact .inl (mem_filter.1 hmem).1
      · exact .inr ⟨e1, by simp [he1], hr⟩
    · rintro e1 he1
      rcases mem_cons.1 he1 with rfl | he1
      · obtain ⟨e', he', rfl⟩ := hset
        exact ⟨e', he', hkey _ _ hk⟩
      · exact hold e1 he1
    · -- an entry that is replaced leaves its key
      by_cases hk0 : e0.1 = k'
      · rw [hk0]
        exact hset
      · exact hkept e0 (by simp [setMapIndex, he0, hk0])

theorem sanitiseField_ok {f : StructField} {field : Except Exn α} {rest : Except Exn β} {v v' : α}
    {vs vs' : β} (h : sanitiseField f field rest v vs = .ok (v', vs')) :
    (f.isSanitised = true ∧ field = .ok v' ∧ rest = .ok vs') ∨
      (f.isSanitised = false ∧ v = v' ∧ vs = vs') := by
  unfold sanitiseField at h
  unfold StructField.isSanitised
  split at h
  · rename_i he
    cases h
    exact .inr ⟨by simp [he], rfl, rfl⟩
  · rename_i he
    split at h
    · cases h
    · rename_i hc
      cases h
      exact .inr ⟨by simp [hc], rfl, rfl⟩
    · rename_i hc
      simp only [except_bind_ok, except_pure_ok, Prod.mk.injEq] at h
      obtain ⟨w, hw, ws, hws, rfl, rfl⟩ := h
      exact .inl ⟨by simpa [hc] using he, hw, hws⟩

theorem sanitiseSlice_total {elem : α → Except Exn α} (h : ∀ v, ∃ v', elem v = .ok v')
    (vs : List α) : ∃ vs', sanitiseSlice elem vs = .ok vs' := by
  induction vs with
  | nil => exact ⟨[], rfl⟩
  | cons v vs ih =>
    obtain ⟨v', hv⟩ := h v
    obtain ⟨vs', hvs⟩ := ih
    exact ⟨v' :: vs', by simp only [sanitiseSlice, hv, hvs]; rfl⟩

theorem sanitiseSlice_single {elem : α → Except Exn α} {v v' : α} (h : elem v = .ok v') :
    sanitiseSlice elem [v] = .ok [v'] := by
  simp only [sanitiseSlice, h]
  rfl

theorem sanitiseMap_total [DecidableEq κ] {key : κ → Except Exn κ} {val : β → Except Exn β}
    (hkey : ∀ k, ∃ k', key k = .ok k') (hval : ∀ v, ∃ v', val v = .ok v') (m newMap : List (κ × β)) :
    ∃ m', sanitiseMap key val m newMap = .ok m' := by
  induction m generalizing newMap with
  | nil => exact ⟨newMap, rfl⟩
  | cons e m ih =>
    obtain ⟨k', hk⟩ := hkey e.1
    obtain ⟨v', hv⟩ := hval e.2
    obtain ⟨m', hm⟩ := ih (setMapIndex newMap k' v')
    exact ⟨m', by simp only [sanitiseMap, hk, hv]; exact hm⟩

theorem sanitiseField_on {f : StructField} {field : Except Exn α} {rest : Except Exn β} {v v' : α}
    {vs vs' : β} (hf : f.isSanitised = true) (hfield : field = .ok v') (hrest : rest = .ok vs') :
    sanitiseField f field rest v vs = .ok (v', vs') := by
  simp only [StructField.isSanitised, Bool.and_eq_true] at hf
  obtain ⟨he, hc⟩ := hf
  split at hc
  · rename_i hc'
    subst hc
    simp only [sanitiseField, he, Bool.true_eq_false, if_false, hc', hfield, hrest]
    rfl
  · cases hc

theorem sanitiseField_off {f : StructField} {field : Except Exn α} {rest : Except Exn β} {v : α}
    {vs : β} (hf : f.isSanitised = false)
    (htag : (!f.exported || (checkSanitiseTag f).isOk) = true) :
    sanitiseField f field rest v vs = .ok (v, vs) := by
  unfold sanitiseField
  split
  · rfl
  · rename_i he
    split
    · rename_i hc
      simp [he, hc, Except.isOk, Except.toBool] at htag
    · rfl
    · rename_i hc
      simp [StructField.isSanitised, hc, he] at hf

theorem sanitiseField_total {f : StructField} {field : Except Exn α} {rest : Except Exn β} {v v' : α}
    {vs vs' : β} (htag : (!f.exported || (checkSanitiseTag f).isOk) = true) (hfield : field = .ok v')
    (hrest : rest = .ok vs') : ∃ w, sanitiseField f field rest v vs = .ok w := by
  cases hf : f.isSanitised with
  | true => exact ⟨_, sanitiseField_on hf hfield hrest⟩
  | false => exact ⟨_, sanitiseField_off hf htag⟩

end Loops

section Ordered

variable {policy : String → String}

theorem sanitize_pointer {t : GoType} {v : t.Val} {v' : (GoType.pointer t).Val}
    (h : sanitize policy (.pointer t) (some v) = .ok v') :
    ∃ w, sanitize policy t v = .ok w ∧ some w = v' := by
  have h : (sanitize policy t v >>= fun w => (pure (some w) : Except Exn (Option t.Val))) =
    .ok v' := h
  obtain ⟨w, hw, h⟩ := except_bind_ok.1 h
  exact ⟨w, hw, except_pure_ok.1 h⟩

theorem sanitize_slice {t : GoType} {vs vs' : (GoType.slice t).Val}
    (h : sanitize policy (.slice t) vs = .ok vs') :
    sanitiseSlice (sanitize policy t) vs = .ok vs' := h

theorem sanitize_map {k v : GoType} {m : List (k.Val × v.Val)} {m' : (GoType.map k v).Val}
    (h : sanitize policy (.map k v) (some m) = .ok m') :
    ∃ w, sanitiseMap (sanitize policy k) (sanitize policy v) m [] = .ok w ∧ some w = m' := by
  have h : (sanitiseMap (sanitize policy k) (sanitize policy v) m [] >>= fun w =>
    (pure (some w) : Except Exn (Option (List (k.Val × v.Val))))) = .ok m' := h
  obtain ⟨w, hw, h⟩ := except_bind_ok.1 h
  exact ⟨w, hw, except_pure_ok.1 h⟩

theorem sanitiseStruct_cons {f : StructField} {t : GoType} {fs : GoFields} {v v' : t.Val}
    {vs vs' : fs.Vals} (h : sanitiseStruct policy (.cons f t fs) (v, vs) = .ok (v', vs')) :
    (f.isSanitised = true ∧ sanitize policy t v = .ok v' ∧ sanitiseStruct policy fs vs = .ok vs') ∨
      (f.isSanitised = false ∧ v = v' ∧ vs = vs') :=
  sanitiseField_ok h

mutual

theorem sanitised_self : ∀ (t : GoType), t.hasText = false → ∀ v : t.Val, Sanitised policy t v v
  | .string, h, _ => by simp [GoType.hasText] at h
  | .rawMessage, h, _ => by simp [GoType.hasText] at h
  | .other, _, _ => rfl
  | .pointer t, h, v => by
    cases v with
    | none => exact .none
    | some v => exact .some (sanitised_self t h v)
  | .slice t, h, vs => forall₂_same.2 fun v _ => sanitised_self t h v
  | .struct fs, h, vs => sanitisedFields_self fs h vs
  | .map k v, h, m => by
    simp only [GoType.hasText, Bool.or_eq_false_iff] at h
    cases m with
    | none => exact .none
    | some m =>
      exact .some ⟨fun e he => ⟨e, he, sanitised_self k h.1 e.1, sanitised_self v h.2 e.2⟩,
        fun e he => ⟨e, he, sanitised_self k h.1 e.1⟩⟩

theorem sanitisedFields_self : ∀ (fs : GoFields), fs.hasText = false → ∀ vs : fs.Vals,
    SanitisedFields policy fs vs vs
  | .nil, _, _ => trivial
  | .cons f t fs, h, (v, vs) => by
    simp only [GoFields.hasText, Bool.or_eq_false_iff, Bool.and_eq_false_imp] at h
    refine ⟨?_, sanitisedFields_self fs h.2 vs⟩
    split
    · rename_i hf
      exact sanitised_self t (h.1 hf) v
    · rfl

end

mutual

theorem sanitised_of_ordered : ∀ (t : GoType), t.ordered → ∀ {v v' : t.Val},
    sanitize policy t v = .ok v' → Sanitised policy t v v'
  | .string, _, _, _, h => by cases h; rfl
  | .rawMessage, _, _, _, h => by cases h; rfl
  | .other, _, _, _, h => by cases h; rfl
  | .pointer _, _, none, _, h => by cases h; exact .none
  | .pointer t, ho, some v, _, h => by
    obtain ⟨w, hw, h⟩ := sanitize_pointer h
    exact h ▸ .some (sanitised_of_ordered t ho hw)
  | .slice t, ho, _, _, h =>
    sanitiseSlice_ok (R := Sanitised policy t) (fun _ _ hv => sanitised_of_ordered t ho hv)
      (sanitize_slice h)
  | .struct fs, ho, _, _, h => sanitisedFields_of_ordered fs ho h
  | .map _ _, _, none, _, h => by cases h; exact .none
  | .map k v, ho, some m, _, h => by
    simp only [GoType.ordered, Bool.and_eq_true] at ho
    obtain ⟨w, hw, h⟩ := sanitize_map h
    obtain ⟨hfrom, hold, -⟩ := sanitiseMap_ok (K := Sanitised policy k) (V := Sanitised policy v)
      (fun _ _ hk => sanitised_of_ordered k ho.1 hk) (fun _ _ hv => sanitised_of_ordered v ho.2 hv) hw
    exact h ▸ .some ⟨fun e' he' => (hfrom e' he').resolve_left not_mem_nil, hold⟩

theorem sanitisedFields_of_ordered : ∀ (fs : GoFields), fs.ordered → ∀ {vs vs' : fs.Vals},
    sanitiseStruct policy fs vs = .ok vs' → SanitisedFields policy fs vs vs'
  | .nil, _, _, _, _ => trivial
  | .cons f t fs, ho, (v, vs), (v', vs'), h => by
    unfold GoFields.ordered at ho
    rcases sanitiseStruct_cons h with ⟨hf, hv, hvs⟩ | ⟨hf, rfl, rfl⟩
    · rw [if_pos hf, Bool.and_eq_true] at ho
      exact ⟨by rw [if_pos hf]; exact sanitised_of_ordered t ho.1 hv,
        sanitisedFields_of_ordered fs ho.2 hvs⟩
    · rw [if_neg (by simp [hf]), Bool.not_eq_true'] at ho
      exact ⟨by rw [if_neg (by simp [hf])], sanitisedFields_self fs ho vs⟩

end

theorem sanitised_pointer {t : GoType} {v v' : t.Val}
    (h : Sanitised policy (.pointer t) (some v) (some v')) : Sanitised policy t v v' := by
  have h : Option.Rel (Sanitised policy t) (some v) (some v') := h
  cases h with
  | some h => exact h

theorem sanitised_slice {t : GoType} {v v' : t.Val}
    (h : Sanitised policy (.slice t) [v] [v']) : Sanitised policy t v v' := by
  have h : List.Forall₂ (Sanitised policy t) [v] [v'] := h
  cases h with
  | cons h _ => exact h

theorem sanitised_entry {k v : GoType} {e e' : k.Val × v.Val}
    (h : Sanitised policy (.map k v) (some [e]) (some [e'])) :
    Sanitised policy k e.1 e'.1 ∧ Sanitised policy v e.2 e'.2 := by
  have h : Option.Rel (SanitisedEntries (Sanitised policy k) (Sanitised policy v)) (some [e])
    (some [e']) := h
  cases h with
  | some h =>
    obtain ⟨e0, he0, hr⟩ := h.1 e' (mem_singleton_self e')
    rwa [mem_singleton.1 he0] at hr

mutual

theorem sanitize_total : ∀ (t : GoType), t.tagged → ∀ v : t.Val, ∃ v', sanitize policy t v = .ok v'
  | .string, _, _ => ⟨_, rfl⟩
  | .rawMessage, _, _ => ⟨_, rfl⟩
  | .other, _, _ => ⟨_, rfl⟩
  | .pointer _, _, none => ⟨_, rfl⟩
  | .pointer t, h, some v => by
    obtain ⟨v', hv⟩ := sanitize_total t h v
    exact ⟨some v', by rw [sanitize, hv]; rfl⟩
  | .slice t, h, vs => sanitiseSlice_total (sanitize_total t h) vs
  | .struct fs, h, vs => sanitiseStruct_total fs h vs
  | .map _ _, _, none => ⟨_, rfl⟩
  | .map k v, h, some m => by
    simp only [GoType.tagged, Bool.and_eq_true] at h
    obtain ⟨m', hm⟩ := sanitiseMap_total (sanitize_total k h.1) (sanitize_total v h.2) m []
    exact ⟨some m', by rw [sanitize, hm]; rfl⟩

theorem sanitiseStruct_total : ∀ (fs : GoFields), fs.tagged → ∀ vs : fs.Vals,
    ∃ vs', sanitiseStruct policy fs vs = .ok vs'
  | .nil, _, _ => ⟨_, rfl⟩
  | .cons f t fs, h, (v, vs) => by
    simp only [GoFields.tagged, Bool.and_eq_true] at h
    obtain ⟨v', hv⟩ := sanitize_total t h.1.2 v
    obtain ⟨vs', hvs⟩ := sanitiseStruct_total fs h.2 vs
    exact sanitiseField_total h.1.1 hv hvs

end

mutual

theorem exists_not_sanitised (hp : policy s ≠ s) : ∀ (t : GoType), t.hasText →
    ∃ v : t.Val, ¬ Sanitised policy t v v
  | .string, _ => ⟨s, fun h => hp h.symm⟩
  | .rawMessage, _ => by
    have h : "<" ≠ sanitiseJSON "<" := by decide
    exact ⟨"<", h⟩
  | .other, h => by simp [GoType.hasText] at h
  | .pointer t, h => by
    obtain ⟨v, hv⟩ := exists_not_sanitised hp t h
    exact ⟨some v, fun h => hv (sanitised_pointer h)⟩
  | .slice t, h => by
    obtain ⟨v, hv⟩ := exists_not_sanitised hp t h
    exact ⟨[v], fun h => hv (sanitised_slice h)⟩
  | .struct fs, h => exists_not_sanitisedFields hp fs h
  | .map k v, h => by
    simp only [GoType.hasText, Bool.or_eq_true] at h
    rcases h with h | h
    · obtain ⟨w, hw⟩ := exists_not_sanitised hp k h
      exact ⟨some [(w, v.zero)], fun h => hw (sanitised_entry h).1⟩
    · obtain ⟨w, hw⟩ := exists_not_sanitised hp v h
      exact ⟨some [(k.zero, w)], fun h => hw (sanitised_entry h).2⟩

theorem exists_not_sanitisedFields (hp : policy s ≠ s) : ∀ (fs : GoFields), fs.hasText →
    ∃ vs : fs.Vals, ¬ SanitisedFields policy fs vs vs
  | .nil, h => by simp [GoFields.hasText] at h
  | .cons f t fs, h => by
    simp only [GoFields.hasText, Bool.or_eq_true, Bool.and_eq_true] at h
    rcases h with ⟨hf, h⟩ | h
    · obtain ⟨v, hv⟩ := exists_not_sanitised hp t h
      exact ⟨(v, fs.zero), fun h => hv (by simpa [hf] using h.1)⟩
    · obtain ⟨vs, hvs⟩ := exists_not_sanitisedFields hp fs h
      exact ⟨(t.zero, vs), fun h => hvs h.2⟩

end

mutual

theorem exists_skipped (hp : policy s ≠ s) : ∀ (t : GoType), t.tagged →
    t.ordered = false → ∃ v v' : t.Val, sanitize policy t v = .ok v' ∧ ¬ Sanitised policy t v v'
  | .string, _, h => by simp [GoType.ordered] at h
  | .rawMessage, _, h => by simp [GoType.ordered] at h
  | .other, _, h => by simp [GoType.ordered] at h
  | .pointer t, htag, h => by
    obtain ⟨v, v', hv, hn⟩ := exists_skipped hp t htag h
    exact ⟨some v, some v', by rw [sanitize, hv]; rfl, fun h => hn (sanitised_pointer h)⟩
  | .slice t, htag, h => by
    obtain ⟨v, v', hv, hn⟩ := exists_skipped hp t htag h
    exact ⟨[v], [v'], sanitiseSlice_single hv, fun h => hn (sanitised_slice h)⟩
  | .struct fs, htag, h => exists_skippedFields hp fs htag h
  | .map k v, htag, h => by
    simp only [GoType.tagged, Bool.and_eq_true] at htag
    simp only [GoType.ordered, Bool.and_eq_false_iff] at h
    rcases h with h | h
    · obtain ⟨w, w', hw, hn⟩ := exists_skipped hp k htag.1 h
      obtain ⟨z, hz⟩ : ∃ z, sanitize policy v v.zero = .ok z := sanitize_total v htag.2 _
      exact ⟨some [(w, v.zero)], some [(w', z)], by rw [sanitize, sanitiseMap, hw, hz]; rfl,
        fun h => hn (sanitised_entry h).1⟩
    · obtain ⟨w, w', hw, hn⟩ := exists_skipped hp v htag.2 h
      obtain ⟨z, hz⟩ : ∃ z, sanitize policy k k.zero = .ok z := sanitize_total k htag.1 _
      exact ⟨some [(k.zero, w)], some [(z, w')], by rw [sanitize, sanitiseMap, hz, hw]; rfl,
        fun h => hn (sanitised_entry h).2⟩

theorem exists_skippedFields (hp : policy s ≠ s) : ∀ (fs : GoFields), fs.tagged →
    fs.ordered = false →
    ∃ vs vs' : fs.Vals, sanitiseStruct policy fs vs = .ok vs' ∧ ¬ SanitisedFields policy fs vs vs'
  | .nil, _, h => by simp [GoFields.ordered] at h
  | .cons f t fs, htag, h => by
    simp only [GoFields.tagged, Bool.and_eq_true] at htag
    unfold GoFields.ordered at h
    cases hf : f.isSanitised with
    | true =>
      rw [if_pos hf, Bool.and_eq_false_iff] at h
      rcases h with h | h
      · obtain ⟨v, v', hv, hn⟩ := exists_skipped hp t htag.1.2 h
        obtain ⟨z, hz⟩ : ∃ z, sanitiseStruct policy fs fs.zero = .ok z :=
          sanitiseStruct_total fs htag.2 _
        exact ⟨(v, fs.zero), (v', z), sanitiseField_on hf hv hz,
          fun h => hn (by simpa [hf] using h.1)⟩
      · obtain ⟨vs, vs', hvs, hn⟩ := exists_skippedFields hp fs htag.2 h
        obtain ⟨z, hz⟩ : ∃ z, sanitize policy t t.zero = .ok z := sanitize_total t htag.1.2 _
        exact ⟨(t.zero, vs), (z, vs'), sanitiseField_on hf hz hvs, fun h => hn h.2⟩
    | false =>
      rw [if_neg (by simp [hf]), Bool.not_eq_false'] at h
      obtain ⟨vs, hvs⟩ := exists_not_sanitisedFields hp fs h
      exact ⟨(t.zero, vs), (t.zero, vs), sanitiseField_off hf htag.1.1, fun h => hvs h.2⟩

end

/-- Whatever the value, everything that must be sanitised is, and the rest is unchanged, exactly if
in no struct type text comes after a field that is unexported or switched off. -/
theorem sanitize_complete_iff {s : String} (hp : policy s ≠ s) {t : GoType} (htag : t.tagged) :
    (∀ v v', sanitizePointer policy t (some v) = .ok v' → Sanitised policy t v v') ↔ t.ordered := by
  constructor
  · intro h
    by_contra ho
    obtain ⟨v, v', hv, hn⟩ := exists_skipped hp t htag (Bool.eq_false_of_not_eq_true ho)
    exact hn (h v v' hv)
  · intro ho v v' h
    exact sanitised_of_ordered t ho h

end Ordered

namespace Sample

def strip (s : String) : String := String.ofList (s.toList.filter (· ≠ '<'))

def groupType : GoType :=
  .struct (.cons ⟨"Name", true, ""⟩ .string (.cons ⟨"members", false, ""⟩ .string .nil))

theorem sanitize_complete_of_last_unexported :
    groupType.ordered = true ∧
      ∀ v v', sanitizePointer strip groupType (some v) = .ok v' → Sanitised strip groupType v v' :=
  ⟨by decide, (sanitize_complete_iff (s := "<") (by decide) (by decide)).2 (by decide)⟩

/-- `model.Workflow`, for a workflow without approvers. -/
def workflowType : GoType :=
  .struct <|
    .cons ⟨"AutoTimeModel", true, ""⟩ .other <|
    .cons ⟨"ID", true, ""⟩ .other <|
    .cons ⟨"State", true, ""⟩ .string <|
    .cons ⟨"InitiatorID", true, ""⟩ .string <|
    .cons ⟨"initiatorName", false, ""⟩ .string <|
    .cons ⟨"Approvers", true, ""⟩ (.slice .other) <|
    .cons ⟨"ApproverGroupIDs", true, ""⟩ .rawMessage <|
    .cons ⟨"ArtifactType", true, ""⟩ .string <|
    .cons ⟨"ArtifactID", true, ""⟩ .other <|
    .cons ⟨"ArtifactName", true, ""⟩ (.pointer .string) <|
    .cons ⟨"ActionType", true, ""⟩ .string <|
    .cons ⟨"Parameters", true, ""⟩ .string <|
    .cons ⟨"ParametersResourceName", true, ""⟩ (.pointer .string) <|
    .cons ⟨"ParametersResourceType", true, ""⟩ (.pointer .string) <|
    .cons ⟨"FailureReason", true, ""⟩ .string <|
    .cons ⟨"ExpiryDate", true, ""⟩ (.pointer .other) <|
    .cons ⟨"MinimumApprovalCount", true, ""⟩ .other .nil

def markedUp : workflowType.Val :=
  ((0 : Nat), (1 : Nat), "INITIAL", "i", "Ida", ([] : List Nat), "[]", "KEY", (2 : Nat), some "<b>",
    "DELETE", "", (none : Option String), (none : Option String), "", (none : Option Nat), (2 : Nat),
    ())

/-- The name of the artifact comes after `initiatorName`, so it keeps its markup. -/
theorem workflow_not_sanitised :
    sanitizePointer strip workflowType (some markedUp) = .ok markedUp ∧
      ¬ Sanitised strip workflowType markedUp markedUp := by
  refine ⟨rfl, fun h => ?_⟩
  have hname : Sanitised strip (.pointer .string) (some "<b>") (some "<b>") :=
    h.2.2.2.2.2.2.2.2.2.1
  have hne : "<b>" ≠ strip "<b>" := by decide
  exact hne (sanitised_pointer hname)

end Sample

end Cmk
