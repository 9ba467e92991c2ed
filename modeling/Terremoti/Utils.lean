import Mathlib.Data.List.GetD
import Terremoti.CLib
import Terremoti.Lib.Counter

/-!
# `Utils.cpp`

The helpers the other modules call. `Utils.millis` is the 32-bit millisecond counter; at `t`
milliseconds after it showed `start` it shows `Counter.read start t` (`millis_eq_read`), which is
how the timed runs below read the clock. A `float` is its bits, an integer or `float` in memory its
four bytes in little-endian order, as on every platform of `vendor/`.
-/

namespace Terremoti
namespace Utils

/-- `Utils::millis` at the `clock_gettime` reading `tv_sec`, `tv_nsec`, in 32-bit arithmetic. -/
def millis (tv_sec tv_nsec : ℕ) : BitVec 32 :=
  BitVec.ofNat 32 (tv_nsec / 1000000) + BitVec.ofNat 32 tv_sec * 1000

theorem millis_eq_ofNat (ns : ℕ) :
    millis (ns / 10 ^ 9) (ns % 10 ^ 9) = BitVec.ofNat 32 (ns / 10 ^ 6) := by
  have hns : ns / 10 ^ 6 = ns % 10 ^ 9 / 1000000 + ns / 10 ^ 9 * 1000 := by omega
  rw [millis, hns, BitVec.ofNat_add, BitVec.ofNat_mul]
  rfl

/-- `t` whole milliseconds after the clock stood at `ns₀` nanoseconds, the counter has advanced by
`t` modulo `2 ^ 32`. -/
theorem millis_eq_read {ns₀ ns t : ℕ} (h : ns / 10 ^ 6 = ns₀ / 10 ^ 6 + t) :
    millis (ns / 10 ^ 9) (ns % 10 ^ 9) =
      Counter.read (millis (ns₀ / 10 ^ 9) (ns₀ % 10 ^ 9)) t := by
  rw [millis_eq_ofNat, millis_eq_ofNat, h, BitVec.ofNat_add, Counter.read]

/-- `Utils::hton64`: the first four bytes, most significant first. -/
def hton64 (bignum : List Byte) : BitVec 64 :=
  (bignum.take 4).foldl (fun aux p => aux <<< 8 ||| p.setWidth 64) 0

/-- The first `max` characters of a C string through `atof`. -/
def atofn {D : Type} [DoubleText D] (str : List Byte) (max : ℕ) : D :=
  DoubleText.atof ((cstr str).take max)

/-- `Utils::trim`; `none` when every character is `c`: `substr` throws then. -/
def trim (str : List Byte) (c : Byte) : Option (List Byte) :=
  if str.all (· == c) then none
  else some ((str.dropWhile (· == c)).reverse.dropWhile (· == c)).reverse

theorem trim_eq_none_iff {str : List Byte} {c : Byte} : trim str c = none ↔ ∀ b ∈ str, b = c := by
  unfold trim
  split
  · rename_i hall
    exact iff_of_true rfl (by simpa using hall)
  · rename_i hall
    exact iff_of_false nofun (by simpa using hall)

theorem dropWhile_of_head? {s : List Byte} {c : Byte} (h : s.head? ≠ some c) :
    s.dropWhile (· == c) = s := by
  cases s with
  | nil => rfl
  | cons b s => rw [List.dropWhile_cons_of_neg (by simpa using h)]

/-- A text between other characters, with any number of `c` on either side. -/
theorem trim_replicate {s : List Byte} {c : Byte} (hne : s ≠ []) (hhead : s.head? ≠ some c)
    (hlast : s.getLast? ≠ some c) (j k : ℕ) :
    trim (List.replicate j c ++ s ++ List.replicate k c) c = some s := by
  have hhead' : (s ++ List.replicate k c).head? ≠ some c := by
    rwa [List.head?_append_of_ne_nil _ hne]
  have hnone : ¬(List.replicate j c ++ s ++ List.replicate k c).all (· == c) = true := by
    obtain ⟨b, t, rfl⟩ := List.exists_cons_of_ne_nil hne
    intro hall
    simp only [List.all_append, List.all_cons, Bool.and_eq_true, beq_iff_eq] at hall
    exact hhead (by rw [List.head?_cons, hall.1.2.1])
  rw [trim, if_neg hnone, List.append_assoc, List.dropWhile_append_of_pos (by simp),
    dropWhile_of_head? hhead', List.reverse_append, List.dropWhile_append_of_pos (by simp),
    dropWhile_of_head? (by rw [List.head?_reverse]; exact hlast), List.reverse_reverse]

theorem trim_append_replicate {s : List Byte} {c : Byte} (hne : s ≠ []) (hhead : s.head? ≠ some c)
    (hlast : s.getLast? ≠ some c) (k : ℕ) : trim (s ++ List.replicate k c) c = some s :=
  trim_replicate hne hhead hlast 0 k

theorem trim_of_ends {s : List Byte} {c : Byte} (hne : s ≠ []) (hhead : s.head? ≠ some c)
    (hlast : s.getLast? ≠ some c) : trim s c = some s := by
  have htrim := trim_append_replicate hne hhead hlast 0
  rwa [List.replicate_zero, List.append_nil] at htrim

def getInterfaceMAC : Option (Fin 6 → Byte) → List Byte
  | some mac_address => (List.ofFn mac_address).flatMap hex02
  | none => []

/-! ### Four bytes in memory -/

def load32 : List Byte → BitVec 32
  | b₀ :: b₁ :: b₂ :: b₃ :: _ => b₃ ++ b₂ ++ b₁ ++ b₀
  | _ => 0

def bytes32 (x : BitVec 32) : List Byte :=
  [x.extractLsb' 0 8, x.extractLsb' 8 8, x.extractLsb' 16 8, x.extractLsb' 24 8]

def reverseFloat (inFloat : BitVec 32) : BitVec 32 := load32 (bytes32 inFloat).reverse

theorem bytes32_load32 (b₀ b₁ b₂ b₃ : Byte) (rest : List Byte) :
    bytes32 (load32 (b₀ :: b₁ :: b₂ :: b₃ :: rest)) = [b₀, b₁, b₂, b₃] := by
  have hbyte : ∀ k (b : Byte), (∀ i, i < 8 → (b₃ ++ b₂ ++ b₁ ++ b₀).getLsbD (k + i) = b.getLsbD i) →
      (b₃ ++ b₂ ++ b₁ ++ b₀).extractLsb' k 8 = b := by
    intro k b h
    refine BitVec.eq_of_getLsbD_eq fun i hi => ?_
    rw [BitVec.getLsbD_extractLsb', h i hi]
    simp [hi]
  simp only [BitVec.getLsbD_append] at hbyte
  rw [load32, bytes32, hbyte 0 b₀, hbyte 8 b₁, hbyte 16 b₂, hbyte 24 b₃]
  all_goals intro i hi; grind

theorem load32_bytes32 (x : BitVec 32) (rest : List Byte) : load32 (bytes32 x ++ rest) = x := by
  show x.extractLsb' 24 8 ++ x.extractLsb' 16 8 ++ x.extractLsb' 8 8 ++ x.extractLsb' 0 8 = x
  refine BitVec.eq_of_getLsbD_eq fun i hi => ?_
  simp only [BitVec.getLsbD_append, BitVec.getLsbD_extractLsb']
  grind

/-- The bytes of a float as it comes in a packet, most significant first, read in memory order and
reversed. -/
theorem reverseFloat_load32 (b₀ b₁ b₂ b₃ : Byte) (rest : List Byte) :
    reverseFloat (load32 (b₀ :: b₁ :: b₂ :: b₃ :: rest)) = b₀ ++ b₁ ++ b₂ ++ b₃ := by
  rw [reverseFloat, bytes32_load32]
  rfl

def singleAt (buf : List Byte) (offset : ℕ) : BitVec 32 :=
  buf.getD offset 0 ++ buf.getD (offset + 1) 0 ++ buf.getD (offset + 2) 0 ++ buf.getD (offset + 3) 0

theorem reverseFloat_drop {buf : List Byte} {offset : ℕ} (h : offset + 4 ≤ buf.length) :
    reverseFloat (load32 (buf.drop offset)) = singleAt buf offset := by
  rw [List.drop_eq_getElem_cons (by omega), List.drop_eq_getElem_cons (by omega),
    List.drop_eq_getElem_cons (by omega), List.drop_eq_getElem_cons (by omega),
    reverseFloat_load32, singleAt, List.getD_eq_getElem _ _ (by omega),
    List.getD_eq_getElem _ _ (by omega), List.getD_eq_getElem _ _ (by omega),
    List.getD_eq_getElem _ _ (by omega)]

end Utils
end Terremoti
