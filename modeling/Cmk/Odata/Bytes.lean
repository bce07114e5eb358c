import Cmk.Errors
import Mathlib.Data.List.Infix

/-!
# Cmk.Odata.Bytes

Go strings as lists of bytes, and the functions of `strings`, `strconv` and `unicode/utf8` the
filter parser uses. A Go string need not be valid UTF-8.
-/

namespace Cmk

abbrev Bytes := List UInt8

namespace Bytes

def ascii (s : String) : Bytes := s.toList.map fun c => UInt8.ofNat c.toNat

def quote : UInt8 := 39

/-- `s[a:b]`. -/
def slice (s : Bytes) (a b : Nat) : Except Exn Bytes :=
  if a ≤ b ∧ b ≤ s.length then .ok ((s.take b).drop a) else .error .panic

/-- The range of the second byte of a rune, by its first. -/
def acceptRange (b0 : UInt8) : UInt8 × UInt8 :=
  if b0 = 0xE0 then (0xA0, 0xBF)
  else if b0 = 0xED then (0x80, 0x9F)
  else if b0 = 0xF0 then (0x90, 0xBF)
  else if b0 = 0xF4 then (0x80, 0x8F)
  else (0x80, 0xBF)

def isContinuation (b : UInt8) : Bool := 0x80 ≤ b && b ≤ 0xBF

def inAcceptRange (b0 b1 : UInt8) : Bool := (acceptRange b0).1 ≤ b1 && b1 ≤ (acceptRange b0).2

def runeSize (b0 : UInt8) : Nat :=
  if 0xC2 ≤ b0 && b0 ≤ 0xDF then 2
  else if 0xE0 ≤ b0 && b0 ≤ 0xEF then 3
  else if 0xF0 ≤ b0 && b0 ≤ 0xF4 then 4
  else 1

/-- The size `utf8.DecodeRune` gives the first rune. An invalid one has size one. -/
def runeWidth : Bytes → Nat
  | [] => 1
  | b0 :: s =>
    let rest := s.take (runeSize b0 - 1)
    if rest.length = runeSize b0 - 1 && rest.head?.all (inAcceptRange b0) &&
        rest.tail.all isContinuation then runeSize b0
    else 1

theorem le_of_inAcceptRange {b0 b1 : UInt8} (h : inAcceptRange b0 b1 = true) : 0x80 ≤ b1 := by
  unfold inAcceptRange acceptRange at h
  rw [Bool.and_eq_true, decide_eq_true_eq] at h
  refine UInt8.le_trans ?_ h.1
  split_ifs <;> decide

theorem le_of_isContinuation {b : UInt8} (h : isContinuation b = true) : 0x80 ≤ b := by
  unfold isContinuation at h
  rw [Bool.and_eq_true, decide_eq_true_eq] at h
  exact h.1

theorem le_of_mem_rune {b c : UInt8} {s : Bytes} (hb : b ∈ s.take (runeWidth (c :: s) - 1)) :
    0x80 ≤ b := by
  unfold runeWidth at hb
  dsimp only at hb
  split at hb
  · rename_i h
    simp only [Bool.and_eq_true, List.all_eq_true] at h
    obtain ⟨⟨-, hhead⟩, htail⟩ := h
    cases hr : s.take (runeSize c - 1) with
    | nil => simp [hr] at hb
    | cons b1 rest =>
      rw [hr] at hb hhead htail
      rcases List.mem_cons.1 hb with rfl | hb
      · exact le_of_inAcceptRange (by simpa using hhead)
      · exact le_of_isContinuation (htail b hb)
  · simp at hb

/-- `unicode.IsSpace` of a byte taken as a rune. -/
def isSpace (b : UInt8) : Bool := b ∈ [9, 10, 11, 12, 13, 32, 0x85, 0xA0]

def spaces : List Bytes :=
  [[9], [10], [11], [12], [13], [32], [0xC2, 0x85], [0xC2, 0xA0], [0xE1, 0x9A, 0x80],
    [0xE2, 0x80, 0x80], [0xE2, 0x80, 0x81], [0xE2, 0x80, 0x82], [0xE2, 0x80, 0x83],
    [0xE2, 0x80, 0x84], [0xE2, 0x80, 0x85], [0xE2, 0x80, 0x86], [0xE2, 0x80, 0x87],
    [0xE2, 0x80, 0x88], [0xE2, 0x80, 0x89], [0xE2, 0x80, 0x8A], [0xE2, 0x80, 0xA8],
    [0xE2, 0x80, 0xA9], [0xE2, 0x80, 0xAF], [0xE2, 0x81, 0x9F], [0xE3, 0x80, 0x80]]

/-- Drops leading white space, at most `fuel` runes of it. -/
def trimPrefix (spaces : List Bytes) : Nat → Bytes → Bytes
  | 0, s => s
  | fuel + 1, s =>
    match spaces.find? fun sp => sp.isPrefixOf s with
    | some sp => trimPrefix spaces fuel (s.drop sp.length)
    | none => s

/-- `strings.TrimSpace`. -/
def trimSpace (s : Bytes) : Bytes :=
  let l := trimPrefix spaces s.length s
  (trimPrefix (spaces.map List.reverse) l.length l.reverse).reverse

/-- `strings.SplitN(s, sep, 2)`: what stands before and after the first `sep`, if there is one. -/
def splitFirst (sep : Bytes) : Bytes → Option (Bytes × Bytes)
  | [] => if sep.isPrefixOf [] then some ([], []) else none
  | b :: s =>
    if sep.isPrefixOf (b :: s) then some ([], (b :: s).drop sep.length)
    else (splitFirst sep s).map fun p => (b :: p.1, p.2)

/-- `strings.ReplaceAll(s, "''", "'")`. -/
def unescape : Bytes → Bytes
  | [] => []
  | [b] => [b]
  | b :: b' :: s => if b = quote ∧ b' = quote then quote :: unescape s else b :: unescape (b' :: s)

def parseInt (s : Bytes) : Option Int :=
  let (negative, digits) :=
    match s with
    | b :: t => if b = 45 then (true, t) else if b = 43 then (false, t) else (false, s)
    | [] => (false, [])
  if digits.isEmpty || digits.any fun b => b < 48 || 57 < b then none
  else
    let n : Nat := digits.foldl (fun n b => 10 * n + (b.toNat - 48)) 0
    if negative then if n ≤ 2 ^ 63 then some (-(n : Int)) else none
    else if n < 2 ^ 63 then some (n : Int) else none

end Bytes

end Cmk
