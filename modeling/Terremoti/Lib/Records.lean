import Mathlib.Data.List.Basic
import Mathlib.Data.Nat.Digits.Lemmas

/-!
# Records of one size

A list of records of `size` items each is read off its items by position, if these are a whole number
of records (`readAll_flatMap`). `littleEndian` are the octets of a number, the lowest first.
-/

namespace Records

variable {α β γ : Type}

/-- The `k`-th record. -/
def slot (size k : ℕ) (s : List α) : List α := (s.drop (k * size)).take size

def readAll (size : ℕ) (decode : List α → γ) (s : List α) : Option (List γ) :=
  if s.length % size = 0 then
    some ((List.range (s.length / size)).map fun k => decode (slot size k s))
  else none

section
variable {size : ℕ} {encode : β → List α}

theorem length_flatMap (hlen : ∀ b, (encode b).length = size) (bs : List β) :
    (bs.flatMap encode).length = bs.length * size := by
  induction bs with
  | nil => simp
  | cons b bs ih =>
    rw [List.flatMap_cons, List.length_append, hlen, ih, List.length_cons]
    ring

theorem drop_flatMap (hlen : ∀ b, (encode b).length = size) (k : ℕ) (bs : List β) :
    (bs.flatMap encode).drop (k * size) = (bs.drop k).flatMap encode := by
  induction k generalizing bs with
  | zero => simp
  | succ k ih =>
    cases bs with
    | nil => simp
    | cons b bs =>
      rw [List.flatMap_cons, Nat.succ_mul, Nat.add_comm, ← List.drop_drop, ← hlen b, List.drop_left,
        hlen b, ih, List.drop_succ_cons]

theorem slot_flatMap (hlen : ∀ b, (encode b).length = size) {k : ℕ} {bs : List β}
    (hk : k < bs.length) : slot size k (bs.flatMap encode) = encode bs[k] := by
  rw [slot, drop_flatMap hlen, List.drop_eq_getElem_cons hk, List.flatMap_cons, ← hlen bs[k],
    List.take_left]

theorem readAll_flatMap (hsize : 0 < size) (hlen : ∀ b, (encode b).length = size)
    (decode : List α → γ) (bs : List β) :
    readAll size decode (bs.flatMap encode) = some (bs.map fun b => decode (encode b)) := by
  rw [readAll, length_flatMap hlen, Nat.mul_mod_left, if_pos rfl, Nat.mul_div_left _ hsize]
  congr 1
  refine List.ext_getElem (by simp) fun k hk hk' => ?_
  rw [List.length_map] at hk'
  simp only [List.getElem_map, List.getElem_range]
  rw [slot_flatMap hlen hk']

end

/-! ### Numbers -/

def littleEndian (n x : ℕ) : List ℕ := (List.range n).map fun k => x / 256 ^ k % 256

theorem ofDigits_littleEndian (n x : ℕ) : Nat.ofDigits 256 (littleEndian n x) = x % 256 ^ n := by
  induction n with
  | zero => simp [littleEndian, Nat.mod_one]
  | succ n ih =>
    rw [littleEndian, List.range_succ, List.map_append, Nat.ofDigits_append]
    change Nat.ofDigits 256 (littleEndian n x) + _ = _
    rw [ih, List.length_map, List.length_range, List.map_singleton, Nat.ofDigits_singleton,
      pow_succ, Nat.mod_mul]

end Records
