import Cmk.Sanitise

/-!
# Cmk.Sanitise.Any

`Sanitize` on data that decoding JSON gives: strings, numbers, booleans and `nil` in slices and maps
of `any`. What an interface holds cannot be written in place. `sanitiseMap` works on copies for this
reason; the loop over a slice does not, so it panics at an element that is a string or a map.

- `sanitizeAny`: the walk, which knows whether its value can be set.
- `AnyValue.writable`: data in which the walk never writes where it cannot.
- `Image`: what the data has to be afterwards.
- `sanitize_any_iff`: the first gives the last exactly for writable data.
-/

namespace Cmk

open List

variable {ν : Type}

/-- A value behind `any`. Numbers are of any type; a nil map is not an empty one. -/
inductive AnyValue (ν : Type) where
  | string (s : String)
  | number (n : ν)
  | bool (b : Bool)
  | nil
  | slice (vs : List (AnyValue ν))
  | map (m : List (String × AnyValue ν))
  | nilMap

section Walk

variable (policy : String → String)

mutual

/-- `sanitize`, after the pointers and interfaces around the value. `Set` and `SetString` panic on a
value that was taken out of an interface. -/
def sanitizeAny (settable : Bool) : AnyValue ν → Except Exn (AnyValue ν)
  | .string s => if settable then .ok (.string (policy s)) else .error .panic
  | .slice vs => do return .slice (← sanitizeElems vs)
  | .map m => do
    let newMap ← sanitizeEntries m []
    if settable then return .map newMap else throw .panic
  | .number n => .ok (.number n)
  | .bool b => .ok (.bool b)
  | .nil => .ok .nil
  | .nilMap => .ok .nilMap

/-- The loop over a slice: an element of `[]any` is an interface. -/
def sanitizeElems : List (AnyValue ν) → Except Exn (List (AnyValue ν))
  | [] => .ok []
  | v :: vs => do
    let v ← sanitizeAny false v
    let vs ← sanitizeElems vs
    return v :: vs

/-- The loop of `sanitiseMap`, on copies of keys and values. -/
def sanitizeEntries : List (String × AnyValue ν) → List (String × AnyValue ν) →
    Except Exn (List (String × AnyValue ν))
  | [], newMap => .ok newMap
  | (k, v) :: m, newMap => do
    let tmpVal ← sanitizeAny true v
    sanitizeEntries m (setMapIndex newMap (policy k) tmpVal)

end

/-- `Sanitize`, on a pointer to a variable that holds the value. The type of the variable is `any` or
the type of the value. -/
def sanitizeVariable (isAny : Bool) (v : AnyValue ν) : Except Exn (AnyValue ν) :=
  sanitizeAny policy (!isAny) v

mutual

/-- The data has no string and no map where the walk cannot write it: not in a slice. -/
def AnyValue.writable (settable : Bool) : AnyValue ν → Bool
  | .string _ => settable
  | .slice vs => elemsWritable vs
  | .map m => settable && entriesWritable m
  | _ => true

def AnyValue.elemsWritable : List (AnyValue ν) → Bool
  | [] => true
  | v :: vs => v.writable false && elemsWritable vs

def AnyValue.entriesWritable : List (String × AnyValue ν) → Bool
  | [] => true
  | (_, v) :: m => v.writable true && entriesWritable m

end

/-- A map made of entries among which keys may be equal: it has every key once, with one of its
values. -/
structure Merged {β : Type} (entries m : List (String × β)) : Prop where
  keys : (m.map Prod.fst).Nodup
  subset : ∀ e ∈ m, e ∈ entries
  kept : ∀ e ∈ entries, e.1 ∈ m.map Prod.fst

mutual

/-- Every string at any depth is the image of the policy, and the rest is as it was. An entry of a map
is lost only to another one whose key has the same image. -/
def Image : AnyValue ν → AnyValue ν → Prop
  | .string s, v' => v' = .string (policy s)
  | .slice vs, v' => ∃ vs', v' = .slice vs' ∧ ElemsImage vs vs'
  | .map m, v' => ∃ entries m', v' = .map m' ∧ EntriesImage m entries ∧ Merged entries m'
  | .number n, v' => v' = .number n
  | .bool b, v' => v' = .bool b
  | .nil, v' => v' = .nil
  | .nilMap, v' => v' = .nilMap

def ElemsImage : List (AnyValue ν) → List (AnyValue ν) → Prop
  | [], vs' => vs' = []
  | v :: vs, vs' => ∃ w ws, vs' = w :: ws ∧ Image v w ∧ ElemsImage vs ws

def EntriesImage : List (String × AnyValue ν) → List (String × AnyValue ν) → Prop
  | [], m' => m' = []
  | (k, v) :: m, m' => ∃ w ws, m' = (policy k, w) :: ws ∧ Image v w ∧ EntriesImage m ws

end

end Walk

namespace Merged

variable {β : Type} {entries m : List (String × β)}

theorem nil : Merged ([] : List (String × β)) [] := ⟨by simp, by simp, by simp⟩

theorem setMapIndex (h : Merged entries m) (k : String) (v : β) :
    Merged (entries ++ [(k, v)]) (setMapIndex m k v) := by
  refine ⟨?_, fun e he => ?_, fun e he => ?_⟩
  · rw [Cmk.setMapIndex, map_cons, nodup_cons]
    refine ⟨?_, (filter_sublist.map Prod.fst).nodup h.keys⟩
    simp
  · rcases mem_cons.1 he with rfl | he
    · simp
    · simp [h.subset e (mem_filter.1 he).1]
  · by_cases hk : e.1 = k
    · simp [Cmk.setMapIndex, hk]
    · obtain ⟨e', he', hke⟩ := mem_map.1 (h.kept e (by
        rcases mem_append.1 he with he | he
        · exact he
        · rw [mem_singleton.1 he] at hk
          exact absurd rfl hk))
      refine mem_map.2 ⟨e', mem_cons_of_mem _ (mem_filter.2 ⟨he', ?_⟩), hke⟩
      simpa [hke] using hk

end Merged

variable {policy : String → String}

mutual

theorem sanitizeAny_image : ∀ (b : Bool) (v : AnyValue ν) {v' : AnyValue ν},
    sanitizeAny policy b v = .ok v' → Image policy v v'
  | true, .string s, _, h => by cases h; rfl
  | false, .string s, _, h => by cases h
  | _, .slice vs, _, h => by
    simp only [sanitizeAny, except_bind_ok, except_pure_ok] at h
    obtain ⟨vs', hvs, rfl⟩ := h
    exact ⟨vs', rfl, sanitizeElems_image vs hvs⟩
  | b, .map m, _, h => by
    simp only [sanitizeAny, except_bind_ok] at h
    obtain ⟨m', hm, h⟩ := h
    obtain ⟨entries, hentries, hmerged⟩ := sanitizeEntries_image m .nil hm
    cases b with
    | false => cases h
    | true => cases h; exact ⟨entries, m', rfl, hentries, hmerged⟩
  | _, .number n, _, h => by cases h; rfl
  | _, .bool b, _, h => by cases h; rfl
  | _, .nil, _, h => by cases h; rfl
  | _, .nilMap, _, h => by cases h; rfl

theorem sanitizeElems_image : ∀ (vs : List (AnyValue ν)) {vs' : List (AnyValue ν)},
    sanitizeElems policy vs = .ok vs' → ElemsImage policy vs vs'
  | [], _, h => by cases h; rfl
  | v :: vs, _, h => by
    simp only [sanitizeElems, except_bind_ok, except_pure_ok] at h
    obtain ⟨w, hw, ws, hws, rfl⟩ := h
    exact ⟨w, ws, rfl, sanitizeAny_image false v hw, sanitizeElems_image vs hws⟩

theorem sanitizeEntries_image : ∀ (m : List (String × AnyValue ν))
    {before newMap m' : List (String × AnyValue ν)}, Merged before newMap →
    sanitizeEntries policy m newMap = .ok m' →
    ∃ entries, EntriesImage policy m entries ∧ Merged (before ++ entries) m'
  | [], before, _, _, hb, h => by
    cases h
    exact ⟨[], rfl, by simpa using hb⟩
  | (k, v) :: m, before, _, _, hb, h => by
    simp only [sanitizeEntries, except_bind_ok] at h
    obtain ⟨w, hw, h⟩ := h
    obtain ⟨entries, hentries, hmerged⟩ := sanitizeEntries_image m (hb.setMapIndex (policy k) w) h
    exact ⟨(policy k, w) :: entries, ⟨w, entries, rfl, sanitizeAny_image true v hw, hentries⟩,
      by simpa using hmerged⟩

end

theorem isOk_bind {α β : Type} {x : Except Exn α} {f : α → Except Exn β} {b : Bool}
    (h : ∀ a, (f a).isOk = b) : (x >>= f).isOk = (x.isOk && b) := by
  cases x with
  | error e => rfl
  | ok a => exact (h a).trans (Bool.true_and b).symm

mutual

theorem sanitizeAny_isOk : ∀ (b : Bool) (v : AnyValue ν),
    (sanitizeAny policy b v).isOk = v.writable b
  | true, .string s => rfl
  | false, .string s => rfl
  | b, .slice vs => by
    rw [sanitizeAny, isOk_bind (b := true) fun _ => rfl, Bool.and_true, sanitizeElems_isOk vs]
    cases b <;> rfl
  | b, .map m => by
    have hset : ∀ newMap : List (String × AnyValue ν),
        (if b then pure (.map newMap) else throw .panic : Except Exn (AnyValue ν)).isOk = b := by
      intro newMap
      cases b <;> rfl
    rw [sanitizeAny, isOk_bind hset, sanitizeEntries_isOk m [], Bool.and_comm, AnyValue.writable]
  | b, .number n => by cases b <;> rfl
  | b, .bool _ => by cases b <;> rfl
  | b, .nil => by cases b <;> rfl
  | b, .nilMap => by cases b <;> rfl

theorem sanitizeElems_isOk : ∀ vs : List (AnyValue ν),
    (sanitizeElems policy vs).isOk = AnyValue.elemsWritable vs
  | [] => rfl
  | v :: vs => by
    have hrest : ∀ w : AnyValue ν, (sanitizeElems policy vs >>= fun ws =>
        (pure (w :: ws) : Except Exn (List (AnyValue ν)))).isOk = AnyValue.elemsWritable vs := by
      intro w
      rw [isOk_bind (b := true) fun _ => rfl, Bool.and_true, sanitizeElems_isOk vs]
    rw [sanitizeElems, isOk_bind hrest, sanitizeAny_isOk false v, AnyValue.elemsWritable]

theorem sanitizeEntries_isOk : ∀ m newMap : List (String × AnyValue ν),
    (sanitizeEntries policy m newMap).isOk = AnyValue.entriesWritable m
  | [], _ => rfl
  | (k, v) :: m, newMap => by
    rw [sanitizeEntries, isOk_bind fun w => sanitizeEntries_isOk m (setMapIndex newMap (policy k) w),
      sanitizeAny_isOk true v, AnyValue.entriesWritable]

end

/-- Whatever the policy and the data, the walk ends without a panic and leaves the image of the data
exactly if no slice has a string or a map in it, and the variable itself is not an `any` with one. -/
theorem sanitize_any_iff {isAny : Bool} {v : AnyValue ν} :
    (∃ v', sanitizeVariable policy isAny v = .ok v' ∧ Image policy v v') ↔ v.writable (!isAny) := by
  have hok : (sanitizeAny policy (!isAny) v).isOk = v.writable (!isAny) := sanitizeAny_isOk _ v
  rw [← hok]
  unfold sanitizeVariable
  cases h : sanitizeAny policy (!isAny) v with
  | error e => simp [Except.isOk, Except.toBool]
  | ok v' => simpa [Except.isOk, Except.toBool] using sanitizeAny_image (!isAny) v h

namespace Sample

/-- `{"tags": ["a"]}` -/
def tagged : AnyValue Nat := .map [("tags", .slice [.string "a"])]

/-- The walk takes the string out of an element of the slice and cannot write it there. -/
theorem string_in_slice_panics : sanitizeVariable strip false tagged = .error .panic := rfl

end Sample

end Cmk
