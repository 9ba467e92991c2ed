import Terremoti.Lib.OnesComplement
import Terremoti.NetworkManager

/-!
# The checksum of a ping

`NetworkManager::checksum` adds up the little-endian 16-bit words of a buffer in 32 bits and folds
the carries in at the end, twice. For a buffer of up to 131074 bytes this is the complement of the
one's-complement sum of its words (`checksum_eq_not_sum`), and no addition overflows: in the model
`Checked`, where one that does is a fault, there is none (`Checked.checksum_eq`).
-/

namespace Terremoti
namespace NetworkManager

/-- The 16-bit words of a buffer; the high byte of an odd last one is zero. -/
def words : List Byte → List (BitVec 16)
  | lo :: hi :: b => (hi ++ lo) :: words b
  | [b] => [(0 : Byte) ++ b]
  | [] => []

/-- The sum of the words as numbers. -/
def total (b : List Byte) : ℕ := ((words b).map BitVec.toNat).sum

@[simp] theorem total_nil : total [] = 0 := rfl

@[simp] theorem total_singleton (b : Byte) : total [b] = b.toNat := by
  have hword : ((0 : Byte) ++ b : BitVec (8 + 8)).toNat = b.toNat := by
    rw [BitVec.toNat_append]
    simp
  simpa [total, words] using hword

@[simp] theorem total_cons_cons (lo hi : Byte) (b : List Byte) :
    total (lo :: hi :: b) = (hi ++ lo).toNat + total b := rfl

theorem total_le (b : List Byte) : total b ≤ (b.length + 1) / 2 * 0xFFFF := by
  fun_induction words b with
  | case1 lo hi b ih =>
    have hword := (hi ++ lo).isLt
    rw [total_cons_cons, List.length_cons, List.length_cons]
    omega
  | case2 b =>
    have hbyte := b.isLt
    rw [total_singleton, List.length_singleton]
    omega
  | case3 => exact Nat.zero_le _

theorem total_lt {b : List Byte} (h : b.length ≤ 131074) : total b < 2 ^ 32 := by
  have hle := total_le b
  omega

theorem toNat_checksumLoop (b : List Byte) (sum : BitVec 32) :
    (checksumLoop b sum).toNat = (sum.toNat + total b) % 2 ^ 32 := by
  fun_induction checksumLoop b sum with
  | case1 lo hi b sum ih =>
    rw [ih, total_cons_cons, BitVec.toNat_add,
      BitVec.toNat_setWidth_of_le (by decide), Nat.mod_add_mod, Nat.add_assoc]
  | case2 b sum =>
    rw [BitVec.toNat_add, BitVec.toNat_setWidth_of_le (by decide), total_singleton]
  | case3 sum => rw [total_nil, Nat.add_zero, Nat.mod_eq_of_lt sum.isLt]

theorem toNat_high (sum : BitVec 32) : (sum >>> 16).toNat = sum.toNat / 2 ^ 16 := by
  rw [BitVec.toNat_ushiftRight, Nat.shiftRight_eq_div_pow]

theorem toNat_low (sum : BitVec 32) : (sum &&& 0xFFFF).toNat = sum.toNat % 2 ^ 16 := by
  rw [BitVec.toNat_and]
  exact Nat.and_two_pow_sub_one_eq_mod sum.toNat 16

/-- The first fold does not overflow. -/
theorem high_add_low_lt (sum : BitVec 32) :
    (sum >>> 16).toNat + (sum &&& 0xFFFF).toNat < 2 ^ 32 := by
  have hsum := sum.isLt
  rw [toNat_high, toNat_low]
  omega

theorem toNat_fold (sum : BitVec 32) :
    ((sum >>> 16) + (sum &&& 0xFFFF)).toNat = OnesComplement.fold 16 sum.toNat := by
  rw [BitVec.toNat_add_of_lt (high_add_low_lt sum), toNat_high, toNat_low, OnesComplement.fold]

/-- Nor does the second. -/
theorem add_high_lt {n : ℕ} {sum : BitVec 32} (hn : n < 2 ^ 32)
    (h : sum.toNat = OnesComplement.fold 16 n) : sum.toNat + (sum >>> 16).toNat < 2 ^ 32 := by
  have hle := OnesComplement.fold_le (w := 16) hn
  rw [toNat_high, h]
  omega

theorem toNat_checksum (b : List Byte) :
    (checksum b).toNat =
      2 ^ 16 - 1 - OnesComplement.residue (2 ^ 16 - 1) (checksumLoop b 0).toNat := by
  have hsum := (checksumLoop b 0).isLt
  have hfold := toNat_fold (checksumLoop b 0)
  have htwice := OnesComplement.fold_fold_le (w := 16) hsum
  unfold checksum
  dsimp only
  generalize (checksumLoop b 0 >>> 16) + (checksumLoop b 0 &&& 0xFFFF) = sum at hfold ⊢
  -- of the last sum only the low half is returned: the second fold
  have hlow : ((sum + (sum >>> 16)).setWidth 16).toNat = OnesComplement.fold 16 sum.toNat := by
    rw [BitVec.toNat_setWidth, BitVec.toNat_add_of_lt (add_high_lt hsum hfold), toNat_high]
    rw [← hfold] at htwice
    unfold OnesComplement.fold at htwice ⊢
    omega
  rw [BitVec.setWidth_not (by decide), BitVec.toNat_not, hlow, hfold,
    OnesComplement.fold_fold_eq_residue (by decide) hsum]

theorem checksum_eq_not_sum {b : List Byte} (h : b.length ≤ 131074) :
    checksum b = ~~~OnesComplement.sum (words b) := by
  refine BitVec.eq_of_toNat_eq ?_
  have htotal : (checksumLoop b 0).toNat = total b := by
    rw [toNat_checksumLoop]
    simpa using total_lt h
  rw [toNat_checksum, htotal, OnesComplement.toNat_not_sum (by decide), total]

/-! ### No addition overflows -/

namespace Checked

/-- An addition, if it does not overflow. -/
def add (a b : BitVec 32) : Option (BitVec 32) :=
  if a.toNat + b.toNat < 2 ^ 32 then some (a + b) else none

def checksumLoop : List Byte → BitVec 32 → Option (BitVec 32)
  | lo :: hi :: buf, sum => do checksumLoop buf (← add sum ((hi ++ lo).setWidth 32))
  | [b], sum => add sum (b.setWidth 32)
  | [], sum => some sum

def checksum (b : List Byte) : Option (BitVec 16) := do
  let sum ← checksumLoop b 0
  let sum ← add (sum >>> 16) (sum &&& 0xFFFF)
  let sum ← add sum (sum >>> 16)
  some ((~~~sum).setWidth 16)

theorem add_eq {a b : BitVec 32} (h : a.toNat + b.toNat < 2 ^ 32) : add a b = some (a + b) :=
  if_pos h

/-- The loop has no fault exactly if the sum of the words is a 32-bit number. -/
theorem checksumLoop_eq (b : List Byte) (sum : BitVec 32) :
    checksumLoop b sum =
      if sum.toNat + total b < 2 ^ 32 then some (NetworkManager.checksumLoop b sum) else none := by
  fun_induction NetworkManager.checksumLoop b sum with
  | case1 lo hi b sum ih =>
    rw [checksumLoop, add, total_cons_cons, BitVec.toNat_setWidth_of_le (by decide)]
    split
    · rename_i hlt
      show checksumLoop b _ = _
      rw [ih, BitVec.toNat_add_of_lt (by rwa [BitVec.toNat_setWidth_of_le (by decide)]),
        BitVec.toNat_setWidth_of_le (by decide), Nat.add_assoc]
    · rename_i hge
      rw [if_neg (by omega)]
      rfl
  | case2 b sum =>
    rw [checksumLoop, add, total_singleton, BitVec.toNat_setWidth_of_le (by decide)]
  | case3 sum => rw [checksumLoop, total_nil, Nat.add_zero, if_pos sum.isLt]

theorem checksum_eq {b : List Byte} (h : b.length ≤ 131074) :
    checksum b = some (NetworkManager.checksum b) := by
  have htotal := total_lt h
  have hloop : checksumLoop b 0 = some (NetworkManager.checksumLoop b 0) := by
    rw [checksumLoop_eq, if_pos (by simpa using htotal)]
  have hfirst := add_eq (high_add_low_lt (NetworkManager.checksumLoop b 0))
  have hsecond := add_eq (add_high_lt (NetworkManager.checksumLoop b 0).isLt
    (toNat_fold (NetworkManager.checksumLoop b 0)))
  rw [checksum, hloop, Option.bind_eq_bind, Option.bind_some, hfirst, Option.bind_some,
    hsecond]
  rfl

end Checked

/-! ### The checksum in its place -/

/-- A 16-bit integer stored in a buffer. -/
def store16 (b : List Byte) (i : ℕ) (x : BitVec 16) : List Byte :=
  (b.set i (x.extractLsb' 0 8)).set (i + 1) (x.extractLsb' 8 8)

theorem words_store16 {b : List Byte} {k : ℕ} (h : 2 * k + 1 < b.length) (x : BitVec 16) :
    words (store16 b (2 * k) x) = (words b).set k x := by
  induction k generalizing b with
  | zero =>
    match b with
    | lo :: hi :: b =>
      have hx : x.extractLsb' 8 8 ++ x.extractLsb' 0 8 = x := by
        refine BitVec.eq_of_getLsbD_eq fun i hi => ?_
        simp only [BitVec.getLsbD_append, BitVec.getLsbD_extractLsb']
        grind
      show (x.extractLsb' 8 8 ++ x.extractLsb' 0 8) :: words b = x :: words b
      rw [hx]
  | succ k ih =>
    match b with
    | lo :: hi :: b =>
      rw [List.length_cons, List.length_cons] at h
      have htail := ih (b := b) (by omega)
      show (hi ++ lo) :: words (store16 b (2 * k) x) = (hi ++ lo) :: (words b).set k x
      rw [htail]

theorem getElem?_words {b : List Byte} {k : ℕ} (h : 2 * k + 1 < b.length) :
    (words b)[k]? = some (b[2 * k + 1] ++ b[2 * k]) := by
  induction k generalizing b with
  | zero =>
    match b with
    | lo :: hi :: b => rfl
  | succ k ih =>
    match b with
    | lo :: hi :: b =>
      rw [List.length_cons, List.length_cons] at h
      exact ih (b := b) (by omega)

theorem length_words (b : List Byte) : (words b).length = (b.length + 1) / 2 := by
  fun_induction words b with
  | case1 lo hi b ih =>
    rw [List.length_cons, ih, List.length_cons, List.length_cons]
    omega
  | case2 b => simp
  | case3 => rfl

/-- The checksum of a buffer with a zero word, stored in this word, makes the sum one of ones. -/
theorem sum_store16_checksum {b : List Byte} (h : b.length ≤ 131074) {k : ℕ}
    (hk : 2 * k + 1 < b.length) (hlo : b[2 * k] = 0) (hhi : b[2 * k + 1] = 0) :
    OnesComplement.sum (words (store16 b (2 * k) (checksum b))) = BitVec.allOnes 16 := by
  have hlength : k < (words b).length := by rw [length_words]; omega
  have hzero : (words b)[k] = 0 := by
    have hword := getElem?_words hk
    rw [List.getElem?_eq_getElem hlength, hlo, hhi] at hword
    exact Option.some.inj hword
  have hrest : OnesComplement.sum (words b) = OnesComplement.sum ((words b).eraseIdx k) := by
    have hperm := List.getElem_cons_eraseIdx_perm hlength
    rw [hzero] at hperm
    rw [← OnesComplement.sum_perm (by decide) hperm, OnesComplement.sum_cons_zero]
  rw [words_store16 hk, checksum_eq_not_sum h, hrest,
    OnesComplement.sum_perm (by decide) (List.set_perm_cons_eraseIdx hlength _),
    OnesComplement.sum_cons_not_sum (by decide)]

theorem checksum_internet {b : List Byte} (h : b.length ≤ 131074) :
    checksum b = ~~~OnesComplement.sum (words b) ∧
      Checked.checksum b = some (checksum b) ∧
      ∀ k, (hk : 2 * k + 1 < b.length) → b[2 * k] = 0 → b[2 * k + 1] = 0 →
        OnesComplement.sum (words (store16 b (2 * k) (checksum b))) = 0xFFFF :=
  ⟨checksum_eq_not_sum h, Checked.checksum_eq h, fun _ => sum_store16_checksum h⟩

theorem checksum_internet_request :
    let b : List Byte := [8, 0, 0, 0, 0x34, 0x12, 1, 0, 0xFF]
    checksum b = ~~~OnesComplement.sum (words b) ∧ Checked.checksum b = some (checksum b) ∧
      OnesComplement.sum (words (store16 b 2 (checksum b))) = 0xFFFF := by
  have h := checksum_internet (b := [8, 0, 0, 0, 0x34, 0x12, 1, 0, 0xFF]) (by decide)
  exact ⟨h.1, h.2.1, h.2.2 1 (by decide) rfl rfl⟩

theorem store16_icmpPacket (checksum id sequence : BitVec 16) :
    store16 (icmpPacket 0 id sequence) 2 checksum = icmpPacket checksum id sequence := rfl

/-- A receiver that adds up the request of a ping finds no error. -/
theorem sum_echoRequest (pid : BitVec 32) (sequenceNumber : BitVec 16) :
    OnesComplement.sum (words (echoRequest pid sequenceNumber)) = BitVec.allOnes 16 := by
  have hlength : (icmpPacket 0 (pid.setWidth 16) sequenceNumber).length = 64 := rfl
  rw [echoRequest, ← store16_icmpPacket]
  exact sum_store16_checksum (k := 1) (by rw [hlength]; decide) (by rw [hlength]; decide) rfl rfl

end NetworkManager
end Terremoti
