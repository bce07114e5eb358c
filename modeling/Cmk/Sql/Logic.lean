import Mathlib.Data.List.Nodup

/-!
# Cmk.Sql.Logic

The three truth values of SQL, comparisons of values that may be missing, and conditions in a row
with `AND` and `OR` between them, where `AND` binds tighter. A row is selected if its condition
is true; it is not if the condition is false or unknown.

- `Truth.Holds` — the rows that are selected.
- `compare`, `isNull`, `isIn` — conditions on one cell.
- `leftJoin`, `innerJoin`, `groupBy` — what stands between `FROM` and the result.
- `value` — a chain of conditions; `holds_value_and`, `holds_valueFrom_and_or` and
  `not_holds_value` say when it is true.
-/

namespace Cmk

open List
namespace Sql

inductive Truth where
  | true | false | unknown
  deriving DecidableEq, Repr

namespace Truth

def ofBool (b : Bool) : Truth := if b then .true else .false

def and : Truth → Truth → Truth
  | .false, _ => .false
  | _, .false => .false
  | .true, .true => .true
  | _, _ => .unknown

def or : Truth → Truth → Truth
  | .true, _ => .true
  | _, .true => .true
  | .false, .false => .false
  | _, _ => .unknown

/-- A row for which a condition has this value is selected. -/
def Holds (t : Truth) : Prop := t = .true

instance (t : Truth) : Decidable t.Holds := inferInstanceAs (Decidable (t = .true))

@[simp] theorem holds_ofBool (b : Bool) : (ofBool b).Holds ↔ b := by
  cases b <;> simp [ofBool, Holds]

@[simp] theorem holds_and (s t : Truth) : (s.and t).Holds ↔ s.Holds ∧ t.Holds := by
  cases s <;> cases t <;> simp [and, Holds]

@[simp] theorem holds_or (s t : Truth) : (s.or t).Holds ↔ s.Holds ∨ t.Holds := by
  cases s <;> cases t <;> simp [or, Holds]

end Truth

section Cells

variable {V : Type}

/-- A comparison with a missing value is unknown. -/
def compare (p : V → V → Bool) : Option V → Option V → Truth
  | some a, some b => .ofBool (p a b)
  | _, _ => .unknown

def isNull (c : Option V) : Truth := .ofBool c.isNone

def isNotNull (c : Option V) : Truth := .ofBool c.isSome

def eq [DecidableEq V] : Option V → Option V → Truth := compare fun a b => a = b

def ne [DecidableEq V] : Option V → Option V → Truth := compare fun a b => a ≠ b

/-- `c IN (v₁, v₂, …)`. -/
def isIn [DecidableEq V] (c : Option V) (vs : List (Option V)) : Truth :=
  vs.foldr (fun v t => (eq c v).or t) .false

@[simp] theorem holds_compare {p : V → V → Bool} {c v : Option V} :
    (compare p c v).Holds ↔ ∃ a ∈ c, ∃ b ∈ v, p a b = true := by
  rcases c with _ | a <;> rcases v with _ | b
  · simp [compare, Truth.Holds]
  · simp [compare, Truth.Holds]
  · simp [compare, Truth.Holds]
  · simp [compare]

@[simp] theorem holds_isNull {c : Option V} : (isNull c).Holds ↔ c = none := by
  simp [isNull]

@[simp] theorem holds_isNotNull {c : Option V} : (isNotNull c).Holds ↔ c ≠ none := by
  simp [isNotNull, Option.isSome_iff_ne_none]

variable [DecidableEq V]

@[simp] theorem holds_eq {c v : Option V} : (eq c v).Holds ↔ c = v ∧ c ≠ none := by
  cases c <;> cases v <;> simp [eq]

@[simp] theorem holds_ne {c v : Option V} : (ne c v).Holds ↔ c ≠ v ∧ c ≠ none ∧ v ≠ none := by
  cases c <;> cases v <;> simp [ne]

@[simp] theorem holds_isIn {c : Option V} {vs : List (Option V)} :
    (isIn c vs).Holds ↔ c ∈ vs ∧ c ≠ none := by
  induction vs with
  | nil => simp [isIn, Truth.Holds]
  | cons v vs ih =>
    have hcons : isIn c (v :: vs) = (eq c v).or (isIn c vs) := rfl
    rw [hcons, Truth.holds_or, holds_eq, ih, mem_cons, or_and_right]

end Cells

inductive Connective where
  | and | or
  deriving DecidableEq, Repr

/-- A condition of a chain, with what stands before it. -/
structure Clause (ρ : Type) where
  connective : Connective
  cond : ρ → Truth

section Chains

variable {ρ : Type} (row : ρ)

/-- The value of a chain after conditions joined by `AND` that have the value `acc` together. -/
def valueFrom (acc : Truth) : List (Clause ρ) → Truth
  | [] => acc
  | c :: cs =>
    match c.connective with
    | .and => valueFrom (acc.and (c.cond row)) cs
    | .or => acc.or (valueFrom (c.cond row) cs)

/-- The value of a chain. Nothing stands before its first condition; a chain of none is no
restriction. -/
def value : List (Clause ρ) → Truth
  | [] => .true
  | c :: cs => valueFrom row (c.cond row) cs

variable {row}

theorem holds_valueFrom_and {acc : Truth} {cs : List (Clause ρ)}
    (h : ∀ c ∈ cs, c.connective = .and) :
    (valueFrom row acc cs).Holds ↔ acc.Holds ∧ ∀ c ∈ cs, (c.cond row).Holds := by
  induction cs generalizing acc with
  | nil => simp [valueFrom]
  | cons c cs ih =>
    rw [valueFrom, h c (by simp)]
    simp only [ih fun c' hc' => h c' (by simp [hc']), Truth.holds_and, forall_mem_cons,
      and_assoc]

theorem holds_valueFrom_or {acc : Truth} {cs : List (Clause ρ)}
    (h : ∀ c ∈ cs, c.connective = .or) :
    (valueFrom row acc cs).Holds ↔ acc.Holds ∨ ∃ c ∈ cs, (c.cond row).Holds := by
  induction cs generalizing acc with
  | nil => simp [valueFrom]
  | cons c cs ih =>
    rw [valueFrom, h c (by simp)]
    simp only [Truth.holds_or, ih fun c' hc' => h c' (by simp [hc']), exists_mem_cons_iff]

theorem holds_valueFrom_and_or {acc : Truth} {cs cs' : List (Clause ρ)}
    (h : ∀ c ∈ cs, c.connective = .and) (h' : ∀ c ∈ cs', c.connective = .or) :
    (valueFrom row acc (cs ++ cs')).Holds ↔
      (acc.Holds ∧ ∀ c ∈ cs, (c.cond row).Holds) ∨ ∃ c ∈ cs', (c.cond row).Holds := by
  induction cs generalizing acc with
  | nil => simp [holds_valueFrom_or h']
  | cons c cs ih =>
    rw [cons_append, valueFrom, h c (by simp)]
    simp only [ih fun c' hc' => h c' (by simp [hc']), Truth.holds_and, forall_mem_cons,
      and_assoc]

theorem holds_value_and {cs : List (Clause ρ)} (h : ∀ c ∈ cs, c.connective = .and) :
    (value row cs).Holds ↔ ∀ c ∈ cs, (c.cond row).Holds := by
  cases cs with
  | nil => simp [value, Truth.Holds]
  | cons c cs =>
    rw [value, holds_valueFrom_and fun c' hc' => h c' (by simp [hc']), forall_mem_cons]

theorem not_holds_valueFrom {acc : Truth} {cs : List (Clause ρ)} (hacc : ¬ acc.Holds)
    (h : ∀ c ∈ cs, c.connective = .or → ¬ (c.cond row).Holds) :
    ¬ (valueFrom row acc cs).Holds := by
  induction cs generalizing acc with
  | nil => exact hacc
  | cons c cs ih =>
    have hcs : ∀ c' ∈ cs, c'.connective = .or → ¬ (c'.cond row).Holds :=
      fun c' hc' => h c' (by simp [hc'])
    rw [valueFrom]
    cases hc : c.connective with
    | and => exact ih (fun hand => hacc ((Truth.holds_and _ _).1 hand).1) hcs
    | or =>
      rw [Truth.holds_or]
      rintro (hor | hor)
      · exact hacc hor
      · exact ih (h c (by simp) hc) hcs hor

/-- A chain whose first condition fails, and every other that holds follows an `AND`. -/
theorem not_holds_value {c : Clause ρ} {cs : List (Clause ρ)} (hc : ¬ (c.cond row).Holds)
    (h : ∀ c ∈ cs, c.connective = .or → ¬ (c.cond row).Holds) : ¬ (value row (c :: cs)).Holds :=
  not_holds_valueFrom hc h

end Chains

section Rows

variable {ρ β σ κ : Type}

/-- A left join: a row that has no partner stays, without one. -/
def leftJoin (on : ρ → β → Truth) (extend : ρ → Option β → σ) (partners : List β)
    (rows : List ρ) : List σ :=
  rows.flatMap fun a =>
    match partners.filter fun b => (on a b).Holds with
    | [] => [extend a none]
    | b :: bs => (b :: bs).map fun b => extend a (some b)

def Partner (partners : List β) (on : β → Prop) : Option β → Prop
  | some b => b ∈ partners ∧ on b
  | none => ∀ b ∈ partners, ¬ on b

theorem exists_partner (partners : List β) (on : β → Prop) : ∃ o, Partner partners on o := by
  by_cases h : ∃ b ∈ partners, on b
  · obtain ⟨b, hb, hon⟩ := h
    exact ⟨some b, hb, hon⟩
  · exact ⟨none, fun b hb hon => h ⟨b, hb, hon⟩⟩

theorem partner_congr {partners : List β} {on on' : β → Prop} {o : Option β}
    (h : ∀ b, on b ↔ on' b) : Partner partners on o ↔ Partner partners on' o := by
  cases o <;> simp [Partner, h]

theorem partner_map {γ : Type} {f : γ → β} {l : List γ} {on : β → Prop} {o : Option β} :
    Partner (l.map f) on o ↔ ∃ o', Partner l (fun c => on (f c)) o' ∧ o = o'.map f := by
  cases o with
  | none =>
    simp only [Partner, mem_map, forall_exists_index, and_imp, forall_apply_eq_imp_iff₂]
    constructor
    · exact fun h => ⟨none, h, rfl⟩
    · rintro ⟨_ | c, h, ho⟩
      · exact h
      · cases ho
  | some b =>
    simp only [Partner, mem_map]
    constructor
    · rintro ⟨⟨c, hc, rfl⟩, hon⟩
      exact ⟨some c, ⟨hc, hon⟩, rfl⟩
    · rintro ⟨_ | c, h, ho⟩
      · cases ho
      · cases ho
        exact ⟨⟨c, h.1, rfl⟩, h.2⟩

theorem mem_leftJoin {on : ρ → β → Truth} {extend : ρ → Option β → σ} {partners : List β}
    {rows : List ρ} {x : σ} :
    x ∈ leftJoin on extend partners rows ↔
      ∃ a ∈ rows, ∃ o, Partner partners (fun b => (on a b).Holds) o ∧ x = extend a o := by
  simp only [leftJoin, mem_flatMap]
  refine exists_congr fun a => and_congr_right fun _ => ?_
  have hmem : ∀ b, b ∈ partners.filter (fun b => (on a b).Holds) ↔
      b ∈ partners ∧ (on a b).Holds := by
    intro b
    rw [mem_filter, decide_eq_true_eq]
  cases hpartners : partners.filter fun b => (on a b).Holds with
  | nil =>
    rw [hpartners] at hmem
    have hnone : ∀ b ∈ partners, ¬ (on a b).Holds := fun b hb hon => by
      cases (hmem b).2 ⟨hb, hon⟩
    simp only [mem_singleton]
    constructor
    · exact fun hx => ⟨none, hnone, hx⟩
    · rintro ⟨_ | b, ho, hx⟩
      · exact hx
      · exact absurd ho.2 (hnone b ho.1)
  | cons b bs =>
    rw [hpartners] at hmem
    have hb := (hmem b).1 (by simp)
    simp only [mem_map, hmem]
    constructor
    · rintro ⟨b', hb', rfl⟩
      exact ⟨some b', hb', rfl⟩
    · rintro ⟨_ | b', ho, rfl⟩
      · exact absurd hb.2 (ho b hb.1)
      · exact ⟨b', ho, rfl⟩

/-- An inner join: a row that has no partner is left out. -/
def innerJoin (on : ρ → β → Truth) (extend : ρ → β → σ) (partners : List β) (rows : List ρ) : List σ :=
  rows.flatMap fun a => (partners.filter fun b => (on a b).Holds).map (extend a)

theorem mem_innerJoin {on : ρ → β → Truth} {extend : ρ → β → σ} {partners : List β}
    {rows : List ρ} {x : σ} :
    x ∈ innerJoin on extend partners rows ↔
      ∃ a ∈ rows, ∃ b ∈ partners, (on a b).Holds ∧ x = extend a b := by
  simp only [innerJoin, mem_flatMap, mem_map, mem_filter, decide_eq_true_eq,
    and_assoc, eq_comm (b := x)]

variable [DecidableEq κ]

def groupBy (key : ρ → κ) : List ρ → List ρ
  | [] => []
  | a :: rows => a :: (groupBy key rows).filter fun b => key b ≠ key a

theorem mem_of_mem_groupBy {key : ρ → κ} {rows : List ρ} {a : ρ} (h : a ∈ groupBy key rows) :
    a ∈ rows := by
  induction rows with
  | nil => exact h
  | cons b rows ih =>
    rcases mem_cons.1 h with rfl | h
    · simp
    · exact mem_cons_of_mem _ (ih (mem_of_mem_filter h))

theorem exists_mem_groupBy (key : ρ → κ) {rows : List ρ} {a : ρ} (h : a ∈ rows) :
    ∃ b ∈ groupBy key rows, key b = key a := by
  induction rows with
  | nil => cases h
  | cons b rows ih =>
    by_cases hkey : key a = key b
    · exact ⟨b, by simp [groupBy], hkey.symm⟩
    · have hmem : a ∈ rows := by
        rcases mem_cons.1 h with rfl | h
        · exact absurd rfl hkey
        · exact h
      obtain ⟨c, hc, hca⟩ := ih hmem
      refine ⟨c, mem_cons_of_mem _ (mem_filter.2 ⟨hc, ?_⟩), hca⟩
      simpa [hca] using hkey

theorem nodup_groupBy (key : ρ → κ) (rows : List ρ) : ((groupBy key rows).map key).Nodup := by
  induction rows with
  | nil => exact nodup_nil
  | cons a rows ih =>
    rw [groupBy, map_cons, nodup_cons]
    constructor
    · intro h
      obtain ⟨b, hb, hkey⟩ := mem_map.1 h
      simp [hkey] at hb
    · exact ih.sublist (filter_sublist.map key)

theorem groupBy_eq_self {key : ρ → κ} {rows : List ρ} (h : (rows.map key).Nodup) :
    groupBy key rows = rows := by
  induction rows with
  | nil => rfl
  | cons a rows ih =>
    rw [map_cons, nodup_cons] at h
    rw [groupBy, ih h.2, filter_eq_self.2]
    intro b hb
    refine decide_eq_true fun heq => h.1 ?_
    rw [← heq]
    exact mem_map_of_mem hb

theorem groupBy_map {α : Type} {key : ρ → κ} {rows : List ρ} (f : ρ → α) (id : α → κ)
    (hkey : ∀ a ∈ rows, key a = id (f a))
    (hid : ∀ a ∈ rows, ∀ b ∈ rows, id (f a) = id (f b) → f a = f b) :
    ((groupBy key rows).map f).Nodup ∧
      ∀ x, x ∈ (groupBy key rows).map f ↔ ∃ a ∈ rows, f a = x := by
  constructor
  · have hmap : (groupBy key rows).map key = ((groupBy key rows).map f).map id := by
      rw [map_map]
      exact map_congr_left fun a ha => hkey a (mem_of_mem_groupBy ha)
    have hnodup := nodup_groupBy key rows
    rw [hmap] at hnodup
    exact List.Nodup.of_map _ hnodup
  · intro x
    rw [mem_map]
    constructor
    · rintro ⟨a, ha, rfl⟩
      exact ⟨a, mem_of_mem_groupBy ha, rfl⟩
    · rintro ⟨a, ha, rfl⟩
      obtain ⟨b, hb, hab⟩ := exists_mem_groupBy key ha
      have hb' := mem_of_mem_groupBy hb
      rw [hkey a ha, hkey b hb'] at hab
      exact ⟨b, hb, hid b hb' a ha hab⟩

end Rows

end Sql
end Cmk
