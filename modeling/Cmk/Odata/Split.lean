import Cmk.Odata.Parser

/-!
# Cmk.Odata.Split

Where the parser splits a filter, said in terms of the filter itself, and for which filters the
splitting stays inside it.

- `AndAt`, `EqAt`, `UnsupportedAt`: an operation outside quotes.
- `scan_spec`: the loop finds every `and`, and fails at an operation that is not supported or at a
  second comparison without an `and` between.
- `parse_filter_safe_iff`: no slice is out of range.
-/

namespace Cmk

open List

open Bytes

variable {i n : Nat} {s : Scan} {c : UInt8} {f l rest : Bytes}

/-- The bytes a string or an operation starts with: a quote, a space, a parenthesis. -/
def starters : List UInt8 := [quote, 32, 40, 41]

theorem head_mem_starters : ∀ op ∈ andOp :: eqOp :: nonSupportedOperations,
    ∃ b ∈ starters, op.head? = some b := by decide

theorem Scan.step_of_plain (h : c ∉ starters) :
    s.step i (c :: rest) = .ok s := by
  have hop : ∀ op ∈ andOp :: eqOp :: nonSupportedOperations,
      startsWithOp (c :: rest) op = false := by
    intro op hmem
    obtain ⟨b, hb, hhead⟩ := head_mem_starters op hmem
    obtain ⟨t, rfl⟩ := head?_eq_some_iff.1 hhead
    have hne : b ≠ c := fun hbc => h (hbc ▸ hb)
    simp [startsWithOp, isPrefixOf, hne]
  have hand : startsWithOp (c :: rest) andOp = false := hop _ (by simp)
  have heq : startsWithOp (c :: rest) eqOp = false := hop _ (by simp)
  have hnon : nonSupportedOperations.any (startsWithOp (c :: rest)) = false := by
    rw [any_eq_false]
    intro op hmem
    simp [hop op (by simp [hmem])]
  have hq : c ≠ quote := fun hc => h (by simp [hc, starters])
  unfold Scan.step checkFilterForOperation
  simp [hand, heq, hnon, hq]

theorem Scan.step_of_le (h : 0x80 ≤ c) :
    s.step i (c :: rest) = .ok s := by
  refine Scan.step_of_plain fun hc => ?_
  have hlt : c < 0x80 := by
    simp only [starters, mem_cons, not_mem_nil, or_false] at hc
    rcases hc with rfl | rfl | rfl | rfl <;> decide
  exact absurd h (UInt8.not_le.2 hlt)

def scanBytes : Nat → Bytes → Scan → Except Exn Scan
  | _, [], s => .ok s
  | i, c :: rest, s =>
    match s.step i (c :: rest) with
    | .error e => .error e
    | .ok s => scanBytes (i + 1) rest s

theorem scan_eq_scanBytes (i skip : Nat) (l : Bytes) (s : Scan)
    (h : ∀ b ∈ l.take skip, 0x80 ≤ b) : scan i skip l s = scanBytes i l s := by
  induction l generalizing i skip s with
  | nil => cases skip <;> rfl
  | cons c rest ih =>
    cases skip with
    | zero =>
      unfold scan scanBytes
      cases s.step i (c :: rest) with
      | error e => rfl
      | ok s => exact ih _ _ _ fun b hb => le_of_mem_rune hb
    | succ skip =>
      rw [scan, scanBytes, Scan.step_of_le (h c (by simp))]
      exact ih _ _ _ fun b hb => h b (by simp [hb])

def Unquoted (f : Bytes) (i : Nat) : Prop := (f.take i).count quote % 2 = 0

instance (f : Bytes) (i : Nat) : Decidable (Unquoted f i) :=
  inferInstanceAs (Decidable ((f.take i).count quote % 2 = 0))

def AndAt (f : Bytes) (i : Nat) : Prop := Unquoted f i ∧ andOp <+: f.drop i

instance (f : Bytes) (i : Nat) : Decidable (AndAt f i) := inferInstanceAs (Decidable (_ ∧ _))

def EqAt (f : Bytes) (i : Nat) : Prop := Unquoted f i ∧ eqOp <+: f.drop i

/-- An operation that is not supported. Before a quote or white space it is not looked for. -/
def UnsupportedAt (f : Bytes) (i : Nat) : Prop :=
  Unquoted f i ∧ nextLegal (f.drop i) = false ∧ ∃ op ∈ nonSupportedOperations, op <+: f.drop i

/-- There is a comparison before byte `i`, and no `and` after it. -/
def DyadAt (f : Bytes) (i : Nat) : Prop :=
  ∃ k < i, EqAt f k ∧ ∀ j, k < j → j < i → ¬ AndAt f j

def ErrorAt (f : Bytes) (i : Nat) : Prop := UnsupportedAt f i ∨ EqAt f i ∧ DyadAt f i

theorem dyadAt_succ :
    DyadAt f (n + 1) ↔ EqAt f n ∨ DyadAt f n ∧ ¬ AndAt f n := by
  constructor
  · rintro ⟨k, hk, heq, hno⟩
    rcases Nat.lt_succ_iff_lt_or_eq.1 hk with hk | rfl
    · exact .inr ⟨⟨k, hk, heq, fun j hkj hj => hno j hkj (by omega)⟩, hno n hk (by omega)⟩
    · exact .inl heq
  · rintro (heq | ⟨⟨k, hk, heq, hno⟩, hand⟩)
    · exact ⟨n, by omega, heq, fun j hnj hj => absurd hj (by omega)⟩
    · refine ⟨k, by omega, heq, fun j hkj hj => ?_⟩
      rcases Nat.lt_succ_iff_lt_or_eq.1 hj with hj | rfl
      · exact hno j hkj hj
      · exact hand

section Exclusive

variable {l : Bytes}

theorem startsWithOp_iff {op : Bytes} : startsWithOp l op = true ↔ op <+: l :=
  isPrefixOf_iff_prefix

theorem nextLegal_of_and (h : andOp <+: l) : nextLegal l = false := by
  obtain ⟨t, rfl⟩ := h
  rfl

theorem nextLegal_of_eq (h : eqOp <+: l) : nextLegal l = false := by
  obtain ⟨t, rfl⟩ := h
  rfl

theorem startsWithOp_eq_false {op : Bytes} : startsWithOp l op = false ↔ ¬ op <+: l := by
  rw [← startsWithOp_iff, Bool.not_eq_true]

theorem unsupported_eq_false : nonSupportedOperations.any (startsWithOp l) = false ↔
    ¬ ∃ op ∈ nonSupportedOperations, op <+: l := by
  simp only [← startsWithOp_iff, ← Bool.not_eq_true, any_eq_true]

theorem not_eq_of_and (h : andOp <+: l) : ¬ eqOp <+: l := by
  obtain ⟨t, rfl⟩ := h
  exact startsWithOp_eq_false.1 rfl

theorem not_unsupported_of_and (h : andOp <+: l) : ¬ ∃ op ∈ nonSupportedOperations, op <+: l := by
  obtain ⟨t, rfl⟩ := h
  exact unsupported_eq_false.1 rfl

theorem not_unsupported_of_eq (h : eqOp <+: l) : ¬ ∃ op ∈ nonSupportedOperations, op <+: l := by
  obtain ⟨t, rfl⟩ := h
  exact unsupported_eq_false.1 rfl

theorem ops_of_quote (rest : Bytes) : ¬ andOp <+: quote :: rest ∧ ¬ eqOp <+: quote :: rest ∧
    ¬ ∃ op ∈ nonSupportedOperations, op <+: quote :: rest :=
  ⟨startsWithOp_eq_false.1 rfl, startsWithOp_eq_false.1 rfl, unsupported_eq_false.1 rfl⟩

theorem check_cases (l : Bytes) (d : Bool) :
    (andOp <+: l ∧ checkFilterForOperation l d = .ok (true, false)) ∨
      (eqOp <+: l ∧ checkFilterForOperation l d =
        if d then .error (.of .errFilterNotToSpec) else .ok (false, true)) ∨
      (nextLegal l = false ∧ (∃ op ∈ nonSupportedOperations, op <+: l) ∧
        checkFilterForOperation l d = .error (.of .errFilterOperationNotSupported)) ∨
      (¬ andOp <+: l ∧ ¬ eqOp <+: l ∧
        ¬ (nextLegal l = false ∧ ∃ op ∈ nonSupportedOperations, op <+: l) ∧
        checkFilterForOperation l d = .ok (false, d)) := by
  unfold checkFilterForOperation
  split
  · rename_i h
    refine .inr (.inr (.inr ⟨fun hand => ?_, fun heq => ?_, fun hno => ?_, rfl⟩))
    · simp [nextLegal_of_and hand] at h
    · simp [nextLegal_of_eq heq] at h
    · simp [hno.1] at h
  · rename_i h
    split
    · rename_i hand
      exact .inl ⟨startsWithOp_iff.1 hand, rfl⟩
    · rename_i hand
      split
      · rename_i heq
        exact .inr (.inl ⟨startsWithOp_iff.1 heq, rfl⟩)
      · rename_i heq
        split
        · rename_i hno
          refine .inr (.inr (.inl ⟨Bool.eq_false_of_not_eq_true h, by_contra fun hcon => ?_, rfl⟩))
          simp [unsupported_eq_false.2 hcon] at hno
        · rename_i hno
          exact .inr (.inr (.inr ⟨mt startsWithOp_iff.2 hand, mt startsWithOp_iff.2 heq, fun hcon =>
            unsupported_eq_false.1 (Bool.eq_false_of_not_eq_true hno) hcon.2, rfl⟩))

end Exclusive

structure Scanned (f : Bytes) (n : Nat) (s : Scan) : Prop where
  quotes : s.quoteCount = (f.take n).count quote
  ands : s.boolOpIndices = (List.range n).filter fun i => AndAt f i
  dyad : s.properDyadFound = true ↔ DyadAt f n

theorem Scanned.next (h : Scanned f n s) (hl : f.drop n = c :: rest) {q : Nat}
    (hq : q = s.quoteCount + if c = quote then 1 else 0) {l : List Nat}
    (hand : l = if AndAt f n then s.boolOpIndices ++ [n] else s.boolOpIndices) {b : Bool}
    (hdyad : b = true ↔ EqAt f n ∨ s.properDyadFound = true ∧ ¬ AndAt f n) :
    Scanned f (n + 1) ⟨q, l, b⟩ := by
  refine ⟨?_, ?_, ?_⟩
  · have htake : f.take (n + 1) = f.take n ++ [c] := by
      rw [take_add_one, ← head?_drop, hl]
      rfl
    simp only [hq, htake, count_append, h.quotes, count_singleton]
    simp
  · simp only [hand, range_succ, filter_append, h.ands, filter_singleton]
    split <;> simp [*]
  · simp only [hdyad, dyadAt_succ, h.dyad]

theorem Scanned.step (h : Scanned f n s) (hl : f.drop n = c :: rest) :
    (ErrorAt f n ∧ ∃ e, s.step n (c :: rest) = .error (.err e)) ∨
      (¬ ErrorAt f n ∧ ∃ s', s.step n (c :: rest) = .ok s' ∧ Scanned f (n + 1) s') := by
  by_cases hc : c = quote
  · subst hc
    obtain ⟨hand, heq, hun⟩ := ops_of_quote rest
    rw [← hl] at hand heq hun
    have hnand : ¬ AndAt f n := fun h => hand h.2
    have hneq : ¬ EqAt f n := fun h => heq h.2
    have hnun : ¬ UnsupportedAt f n := fun h => hun h.2.2
    refine .inr ⟨by simp [ErrorAt, hnun, hneq], _, rfl, h.next hl (by simp) (by simp [hnand]) ?_⟩
    simp [hnand, hneq]
  · have hq : s.quoteCount = s.quoteCount + if c = quote then 1 else 0 := by simp [hc]
    by_cases heven : s.quoteCount % 2 = 0
    · have hun : Unquoted f n := by rwa [Unquoted, ← h.quotes]
      have hstep : s.step n (c :: rest) =
          (checkFilterForOperation (f.drop n) s.properDyadFound).map fun r =>
            ⟨s.quoteCount, if r.1 then s.boolOpIndices ++ [n] else s.boolOpIndices, r.2⟩ := by
        simp only [Scan.step, hc, if_false, heven, if_true, ← hl]
        cases checkFilterForOperation (f.drop n) s.properDyadFound <;> rfl
      rw [hstep]
      rcases check_cases (f.drop n) s.properDyadFound with ⟨hand, hr⟩ | ⟨heq, hr⟩ |
        ⟨hnl, hno, hr⟩ | ⟨hand, heq, hno, hr⟩
      · have hat : AndAt f n := ⟨hun, hand⟩
        have hneq : ¬ EqAt f n := fun h => not_eq_of_and hand h.2
        have hnun : ¬ UnsupportedAt f n := fun h => not_unsupported_of_and hand h.2.2
        refine .inr ⟨by simp [ErrorAt, hnun, hneq], _, by rw [hr]; rfl, ?_⟩
        exact h.next hl hq (by simp [hat]) (by simp [hat, hneq])
      · have hat : EqAt f n := ⟨hun, heq⟩
        have hnand : ¬ AndAt f n := fun h => not_eq_of_and h.2 heq
        have hnun : ¬ UnsupportedAt f n := fun h => not_unsupported_of_eq heq h.2.2
        by_cases hd : s.properDyadFound = true
        · rw [hr, if_pos hd]
          exact .inl ⟨.inr ⟨hat, h.dyad.1 hd⟩, _, rfl⟩
        · refine .inr ⟨?_, _, by rw [hr, if_neg hd]; rfl,
            h.next hl hq (by simp [hnand]) (by simp [hat])⟩
          rintro (h' | ⟨-, h'⟩)
          · exact hnun h'
          · exact hd (h.dyad.2 h')
      · rw [hr]
        exact .inl ⟨.inl ⟨hun, hnl, hno⟩, _, rfl⟩
      · have hnand : ¬ AndAt f n := fun h => hand h.2
        have hneq : ¬ EqAt f n := fun h => heq h.2
        have hnun : ¬ UnsupportedAt f n := fun h => hno h.2
        refine .inr ⟨by simp [ErrorAt, hnun, hneq], _, by rw [hr]; rfl, ?_⟩
        exact h.next hl hq (by simp [hnand]) (by simp [hnand, hneq])
    · have hun : ¬ Unquoted f n := by rwa [Unquoted, ← h.quotes]
      have hnand : ¬ AndAt f n := fun h => hun h.1
      have hneq : ¬ EqAt f n := fun h => hun h.1
      have hnun : ¬ UnsupportedAt f n := fun h => hun h.1
      refine .inr ⟨by simp [ErrorAt, hnun, hneq], s, by simp [Scan.step, hc, heven], ?_⟩
      exact h.next hl hq (by simp [hnand]) (by simp [hnand, hneq])

theorem not_errorAt_of_le (h : f.length ≤ i) : ¬ ErrorAt f i := by
  have hnil : f.drop i = [] := drop_eq_nil_of_le h
  rintro (⟨-, -, hop⟩ | ⟨⟨-, heq⟩, -⟩)
  · rw [hnil] at hop
    exact unsupported_eq_false.1 rfl hop
  · rw [hnil] at heq
    exact startsWithOp_eq_false.1 rfl heq

/-- The whole loop: it ends with an error if there is a byte for one, and otherwise has seen every
byte. -/
theorem scanBytes_spec (h : Scanned f n s) (hl : f.drop n = l) (hn : n ≤ f.length) :
    ((∃ i, n ≤ i ∧ ErrorAt f i) ∧ ∃ e, scanBytes n l s = .error (.err e)) ∨
      ((∀ i, n ≤ i → ¬ ErrorAt f i) ∧ ∃ s', scanBytes n l s = .ok s' ∧ Scanned f f.length s') := by
  induction l generalizing n s with
  | nil =>
    have hlen : n = f.length := Nat.le_antisymm hn (drop_eq_nil_iff.1 hl)
    subst hlen
    exact .inr ⟨fun i hi => not_errorAt_of_le hi, s, rfl, h⟩
  | cons c rest ih =>
    have hlt : n < f.length := by
      by_contra hge
      rw [drop_eq_nil_of_le (Nat.le_of_not_lt hge)] at hl
      cases hl
    have hrest : f.drop (n + 1) = rest := by rw [← tail_drop, hl]; rfl
    rcases h.step hl with ⟨herr, e, hs⟩ | ⟨herr, s', hs, h'⟩
    · exact .inl ⟨⟨n, le_refl n, herr⟩, e, by rw [scanBytes, hs]⟩
    · rw [scanBytes, hs]
      rcases ih h' hrest hlt with ⟨⟨i, hi, hei⟩, hres⟩ | ⟨hno, hres⟩
      · exact .inl ⟨⟨i, by omega, hei⟩, hres⟩
      · refine .inr ⟨fun i hi => ?_, hres⟩
        rcases Nat.eq_or_lt_of_le hi with rfl | hi
        · exact herr
        · exact hno i hi

theorem scanned_start (f : Bytes) : Scanned f 0 ⟨0, [], false⟩ :=
  ⟨by simp, by simp, by simp [DyadAt]⟩

theorem scan_spec (f : Bytes) :
    ((∃ i, ErrorAt f i) ∧ ∃ e, scan 0 0 f ⟨0, [], false⟩ = .error (.err e)) ∨
      ((∀ i, ¬ ErrorAt f i) ∧ ∃ s, scan 0 0 f ⟨0, [], false⟩ = .ok s ∧ Scanned f f.length s) := by
  rw [scan_eq_scanBytes _ _ _ _ (by simp)]
  simpa using scanBytes_spec (scanned_start f) (drop_zero) (Nat.zero_le _)

def Apart (i j : Nat) : Prop := i + andOp.length ≤ j

theorem slice_ok {s : Bytes} {a b : Nat} (hab : a ≤ b) (hb : b ≤ s.length) :
    s.slice a b = .ok ((s.take b).drop a) := if_pos ⟨hab, hb⟩

theorem slice_panic {s : Bytes} {a b : Nat} (hab : ¬ a ≤ b) : s.slice a b = .error .panic :=
  if_neg fun h => hab h.1

/-- The slices are in range exactly if no place comes before the end of the last one. -/
theorem split_cases {indices : List Nat} {last : Nat} (hlast : last ≤ f.length)
    (hand : ∀ i ∈ indices, i + andOp.length ≤ f.length) :
    ((∀ i ∈ indices, last ≤ i) ∧ indices.Pairwise Apart ∧
        ∃ parts, splitBooleanOperandsFromIndices f last indices = .ok parts) ∨
      (¬ ((∀ i ∈ indices, last ≤ i) ∧ indices.Pairwise Apart) ∧
        splitBooleanOperandsFromIndices f last indices = .error .panic) := by
  induction indices generalizing last with
  | nil =>
    refine .inl ⟨by simp, .nil, [f.drop last], ?_⟩
    rw [splitBooleanOperandsFromIndices, slice_ok hlast (le_refl _), take_length]
    rfl
  | cons i is ih =>
    rw [splitBooleanOperandsFromIndices]
    by_cases hi : last ≤ i
    · rw [slice_ok hi (by have := hand i (by simp); omega)]
      rcases ih (hand i (by simp)) fun j hj => hand j (by simp [hj]) with
        ⟨hfrom, hpair, parts, hs⟩ | ⟨hno, hs⟩
      · refine .inl ⟨?_, pairwise_cons.2 ⟨hfrom, hpair⟩, _, by rw [hs]; rfl⟩
        intro j hj
        rcases mem_cons.1 hj with rfl | hj
        · exact hi
        · have := hfrom j hj
          omega
      · refine .inr ⟨fun h => hno (pairwise_cons.1 h.2), by rw [hs]; rfl⟩
    · rw [slice_panic hi]
      exact .inr ⟨fun h => hi (h.1 i (by simp)), rfl⟩

theorem pairwise_filter_range {p : Nat → Bool} {R : Nat → Nat → Prop} :
    ((range n).filter p).Pairwise R ↔
      ∀ i j, i < j → j < n → p i = true → p j = true → R i j := by
  rw [pairwise_filter, pairwise_iff_getElem]
  simp only [length_range, List.getElem_range]
  exact ⟨fun h i j hij hj => h i j (by omega) hj hij, fun h i j _ hj hij => h i j hij hj⟩

def andAnd : Bytes := ascii " and and "

theorem andAnd_of_overlap {d : Nat} (h : andOp <+: l) (h' : andOp <+: l.drop d) (hd : 0 < d)
    (hlt : d < andOp.length) : d = 4 ∧ andAnd <+: l := by
  obtain ⟨t, rfl⟩ := h
  have hlt : d < 5 := hlt
  obtain rfl | rfl | rfl | rfl : d = 1 ∨ d = 2 ∨ d = 3 ∨ d = 4 := by omega
  · exact absurd h' (startsWithOp_eq_false.1 rfl)
  · exact absurd h' (startsWithOp_eq_false.1 rfl)
  · exact absurd h' (startsWithOp_eq_false.1 rfl)
  · refine ⟨rfl, ?_⟩
    obtain ⟨t', ht⟩ := h'
    have ht : ascii "and " ++ t' = t := (cons.inj ht).2
    rw [← ht]
    exact ⟨t', rfl⟩

theorem overlap_of_andAnd (hun : Unquoted f i) (h : andAnd <+: f.drop i) :
    AndAt f i ∧ AndAt f (i + 4) := by
  obtain ⟨t, ht⟩ := h
  refine ⟨⟨hun, ?_⟩, ?_, ?_⟩
  · rw [← ht]
    exact ⟨ascii "and " ++ t, rfl⟩
  · have htake : f.take (i + 4) = f.take i ++ ascii " and" := by
      rw [take_add, ← ht]
      rfl
    rw [Unquoted, htake, count_append]
    exact hun
  · rw [← drop_drop, ← ht]
    exact ⟨t, rfl⟩

theorem AndAt.le (h : AndAt f i) : i + andOp.length ≤ f.length := by
  have hlen := h.2.length_le
  have hpos : andOp.length = 5 := rfl
  rw [length_drop] at hlen
  omega

/-- The places that are found do not overlap, unless there is an `and` right after an `and`. -/
theorem apart_iff (f : Bytes) :
    ((range f.length).filter fun i => AndAt f i).Pairwise Apart ↔
      ¬ ∃ i, Unquoted f i ∧ andAnd <+: f.drop i := by
  simp only [pairwise_filter_range, decide_eq_true_eq]
  constructor
  · rintro h ⟨i, hun, hand⟩
    obtain ⟨h1, h2⟩ := overlap_of_andAnd hun hand
    have hle := h2.le
    have hapart : i + 5 ≤ i + 4 := h i (i + 4) (by omega) (by
      have : andOp.length = 5 := rfl
      omega) h1 h2
    omega
  · intro hno i j hij hj hi hj'
    by_contra hov
    have hdrop : andOp <+: (f.drop i).drop (j - i) := by
      rw [drop_drop, show i + (j - i) = j by omega]
      exact hj'.2
    have hd : j - i < andOp.length := by
      unfold Apart at hov
      omega
    exact hno ⟨i, hi.1, (andAnd_of_overlap hi.2 hdrop (by omega) hd).2⟩

def Returns {α : Type} (x : Except Exn α) : Prop := x ≠ .error .panic

theorem Returns.ok {α : Type} (a : α) : Returns (.ok a) := by
  simp [Returns]

theorem Returns.err {α : Type} (e : Err) : Returns (.error (.err e) : Except Exn α) := by
  simp [Returns]

theorem Returns.bind {α β : Type} {x : Except Exn α} {f : α → Except Exn β} (hx : Returns x)
    (hf : ∀ a, Returns (f a)) : Returns (x >>= f) := by
  rcases x with e | a
  · intro h
    have h : (.error e : Except Exn β) = .error .panic := h
    cases h
    exact hx rfl
  · exact hf a

theorem returns_splitComparisonOperation (op : Bytes) : Returns (splitComparisonOperation op) := by
  unfold splitComparisonOperation
  split
  · exact .err _
  · split
    · exact .err _
    · exact .ok _

theorem returns_splitComparisonOperations (ops : List Bytes) :
    Returns (splitComparisonOperations ops) := by
  induction ops with
  | nil => exact .ok _
  | cons op ops ih =>
    exact (returns_splitComparisonOperation op).bind fun _ => ih.bind fun _ => .ok _

theorem returns_checkQuotes (cnt : Nat) (s : Bytes) : Returns (checkQuotes cnt s) := by
  induction s generalizing cnt with
  | nil => exact .ok _
  | cons c rest ih =>
    unfold checkQuotes
    split
    · exact ih _
    · split
      · exact .err _
      · exact ih _

theorem returns_convertString (s : Bytes) : Returns (convertString s) :=
  (returns_checkQuotes 0 s).bind fun _ => .ok _

theorem returns_convertUUID (parseUUID : ParseUUID) (s : Bytes) :
    Returns (convertUUID parseUUID s) := by
  refine (returns_convertString s).bind fun str => ?_
  cases parseUUID str with
  | error e => exact .err _
  | ok id => exact .ok _

theorem returns_convertBool (s : Bytes) : Returns (convertBool s) := by
  unfold convertBool
  split
  · exact .ok _
  · split
    · exact .ok _
    · exact .err _

theorem returns_convertInt (s : Bytes) : Returns (convertInt s) := by
  unfold convertInt
  split
  · exact .ok _
  · exact .err _

section Entry

variable {Q : Type} (parseUUID : ParseUUID)

theorem returns_preProcessValue (fs : FilterSchemaEntry Q) (s : Bytes) :
    Returns (fs.preProcessValue s) := by
  unfold FilterSchemaEntry.preProcessValue
  split
  · split
    · exact .err _
    · rename_i h
      rw [slice_ok (by omega) (Nat.sub_le _ _)]
      exact .ok _
  · exact .ok _

theorem returns_modify (fs : FilterSchemaEntry Q) (s : Bytes) : Returns (fs.modify s) := by
  unfold FilterSchemaEntry.modify
  split
  · exact .ok _
  · split
    · exact .ok _
    · exact .err _

theorem returns_convert (fs : FilterSchemaEntry Q) (s : Bytes) :
    Returns (fs.convert parseUUID s) := by
  unfold FilterSchemaEntry.convert
  split
  · exact (returns_convertString s).bind fun _ => .ok _
  · exact (returns_convertUUID parseUUID s).bind fun _ => .ok _
  · exact (returns_convertBool s).bind fun _ => .ok _
  · exact (returns_convertInt s).bind fun _ => .ok _
  · exact .err _

theorem returns_entryApply (fs : FilterSchemaEntry Q) (s : Bytes) :
    Returns (fs.apply parseUUID s) := by
  refine (returns_preProcessValue fs s).bind fun p => (returns_modify fs p).bind fun m =>
    (returns_convert parseUUID fs m).bind fun v => ?_
  split
  · exact .ok _
  · split
    · exact .ok _
    · exact .err _

theorem returns_schemaApply (fs : FilterSchema Q) (field value : Bytes) :
    Returns (fs.apply parseUUID field value) := by
  unfold FilterSchema.apply
  split
  · exact .err _
  · exact (returns_entryApply parseUUID _ value).bind fun _ => .ok _

theorem returns_setFieldValues (mf : QueryOdataMapper Q) (fields : List (Bytes × Bytes)) :
    Returns (mf.setFieldValues parseUUID fields) := by
  induction fields generalizing mf with
  | nil => exact .ok _
  | cons p rest ih =>
    exact (returns_schemaApply parseUUID mf.filterSchema p.1 p.2).bind fun _ => ih _

end Entry

/-- The parser notices that the filter is not to its specification before it splits it. -/
def Rejected (f : Bytes) : Prop :=
  f.count quote % 2 = 1 ∨ (∃ i, UnsupportedAt f i) ∨ ∃ i, EqAt f i ∧ DyadAt f i

theorem splitBooleanOperations_cases (f : Bytes) :
    (Rejected f ∧ ∃ e, splitBooleanOperations f = .error (.err e)) ∨
      (¬ Rejected f ∧ splitBooleanOperations f =
        splitBooleanOperandsFromIndices f 0 ((range f.length).filter fun i => AndAt f i)) := by
  unfold splitBooleanOperations
  rcases scan_spec f with ⟨⟨i, hi⟩, e, hs⟩ | ⟨hno, s, hs, hscan⟩
  · refine .inl ⟨?_, e, by rw [hs]⟩
    rcases hi with hun | heq
    · exact .inr (.inl ⟨i, hun⟩)
    · exact .inr (.inr ⟨i, heq⟩)
  · have hquotes : s.quoteCount = f.count quote := by rw [hscan.quotes, take_length]
    simp only [hs, hquotes, hscan.ands]
    split
    · rename_i hodd
      exact .inl ⟨.inl hodd, _, rfl⟩
    · rename_i heven
      refine .inr ⟨?_, rfl⟩
      rintro (hodd | ⟨i, hun⟩ | ⟨i, heq⟩)
      · exact heven hodd
      · exact hno i (.inl hun)
      · exact hno i (.inr heq)

theorem returns_splitBooleanOperations_iff (f : Bytes) :
    Returns (splitBooleanOperations f) ↔
      Rejected f ∨ ¬ ∃ i, Unquoted f i ∧ andAnd <+: f.drop i := by
  rcases splitBooleanOperations_cases f with ⟨hrej, e, hs⟩ | ⟨hrej, hs⟩
  · rw [hs]
    exact iff_of_true (.err e) (.inl hrej)
  · have hand : ∀ i ∈ (range f.length).filter fun i => AndAt f i,
        i + andOp.length ≤ f.length := by
      intro i hi
      exact AndAt.le (of_decide_eq_true (mem_filter.1 hi).2)
    rw [hs, ← apart_iff, or_iff_right hrej]
    rcases split_cases (Nat.zero_le _) hand with ⟨-, hpair, parts, hsplit⟩ | ⟨hno, hsplit⟩
    · rw [hsplit]
      exact iff_of_true (.ok parts) hpair
    · rw [hsplit]
      exact iff_of_false (fun h => h rfl) fun h => hno ⟨fun i _ => Nat.zero_le i, h⟩

theorem returns_parseFilter_iff (f : Bytes) :
    Returns (Cmk.parseFilter f) ↔ Returns (splitBooleanOperations f) := by
  unfold Cmk.parseFilter
  split
  · rename_i hnil
    subst hnil
    exact iff_of_true (.ok _) (.ok [[]])
  · constructor
    · intro h hs
      exact h (by rw [hs]; rfl)
    · intro h
      exact h.bind fun ops => returns_splitComparisonOperations ops

/-- A call of the parser returns exactly if the filter is refused before it is split, or has no
two `and` outside quotes with a single space between them. -/
theorem parse_filter_safe_iff {Q : Type} (parseUUID : ParseUUID) (mf : QueryOdataMapper Q)
    (f : Bytes) :
    mf.parseFilter parseUUID (some f) ≠ .error .panic ↔
      Rejected f ∨ ¬ ∃ i, Unquoted f i ∧ ascii " and and " <+: f.drop i := by
  rw [← andAnd, ← returns_splitBooleanOperations_iff, ← returns_parseFilter_iff]
  constructor
  · intro h hp
    exact h (by rw [QueryOdataMapper.parseFilter, hp]; rfl)
  · intro h
    exact h.bind fun fields => returns_setFieldValues parseUUID mf fields

namespace Sample

/-- Two `and`, one after the other: the second split starts before the first has ended. -/
theorem repeated_and_panics :
    (⟨[], []⟩ : QueryOdataMapper Unit).parseFilter (fun _ => .ok UUID.nil)
      (some (ascii "a and and b")) = .error .panic := rfl

end Sample

end Cmk
