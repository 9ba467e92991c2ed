import Mathlib.Algebra.BigOperators.Group.List.Basic
import Mathlib.Data.BitVec
import Mathlib.Data.Nat.ModEq
import Mathlib.Tactic.Ring

/-!
# One's-complement sums

`addCarry` adds two words and puts the carry out of the top back in at the bottom. The sum of a list
of words depends on nothing but the sum `n` of the words as numbers: it is the residue of `n` modulo
`2 ^ w - 1` that is zero only for `n = 0` (`toNat_sum`). `fold` adds what is above the low `w` bits
of a number to what is below, which keeps that residue; two folds of a number of `2 * w` bits are it
(`fold_fold_eq_residue`).
-/

namespace OnesComplement

/-- The residue of `n` modulo `m` among `1, ..., m`, and 0 for 0. -/
def residue (m n : ℕ) : ℕ := if n = 0 then 0 else (n - 1) % m + 1

section Residue
variable {m n k r : ℕ}

theorem residue_zero : residue m 0 = 0 := rfl

theorem residue_eq_zero_iff : residue m n = 0 ↔ n = 0 := by
  unfold residue
  split <;> simp_all

theorem residue_le (hm : 0 < m) : residue m n ≤ m := by
  unfold residue
  split
  · exact Nat.zero_le m
  · exact Nat.mod_lt _ hm

theorem residue_modEq : residue m n ≡ n [MOD m] := by
  unfold residue
  split
  · rename_i hzero
    rw [hzero]
  · rename_i hpos
    have hmod : (n - 1) % m ≡ n - 1 [MOD m] := Nat.mod_modEq _ _
    have hadd := hmod.add_right 1
    rwa [Nat.sub_add_cancel (Nat.one_le_iff_ne_zero.2 hpos)] at hadd

/-- The three properties above determine the residue. -/
theorem residue_eq (hle : r ≤ m) (hmod : r ≡ n [MOD m]) (hzero : r = 0 ↔ n = 0) :
    residue m n = r := by
  by_cases hn : n = 0
  · rw [hzero.2 hn, hn, residue_zero]
  · have hr : r ≠ 0 := fun h => hn (hzero.1 h)
    have hpred : n - 1 ≡ r - 1 [MOD m] := by
      refine Nat.ModEq.add_right_cancel' 1 ?_
      rw [Nat.sub_add_cancel (by omega), Nat.sub_add_cancel (by omega)]
      exact hmod.symm
    have heq : (n - 1) % m = r - 1 := Nat.mod_eq_of_modEq hpred (by omega)
    rw [residue, if_neg hn, heq]
    omega

theorem residue_of_le (h : n ≤ m) : residue m n = n := residue_eq h rfl Iff.rfl

theorem residue_congr (hmod : n ≡ k [MOD m]) (hzero : n = 0 ↔ k = 0) (hm : 0 < m) :
    residue m n = residue m k :=
  residue_eq (residue_le hm) (residue_modEq.trans hmod.symm)
    (residue_eq_zero_iff.trans hzero.symm)

theorem residue_residue_add (hm : 0 < m) (n k : ℕ) :
    residue m (residue m n + k) = residue m (n + k) := by
  refine residue_congr (residue_modEq.add_right k) ?_ hm
  rw [Nat.add_eq_zero_iff, Nat.add_eq_zero_iff, residue_eq_zero_iff]

/-- A number and what is missing from its residue to `m`. -/
theorem residue_add_sub (hm : 0 < m) (n : ℕ) : residue m (n + (m - residue m n)) = m := by
  have hle := residue_le (n := n) hm
  rw [← residue_residue_add hm, Nat.add_sub_cancel' hle, residue_of_le le_rfl]

end Residue

/-! ### Words -/

variable {w : ℕ}

/-- The sum with the end-around carry. -/
def addCarry (a b : BitVec w) : BitVec w :=
  if a.toNat + b.toNat < 2 ^ w then a + b else a + b + 1#w

def sum (words : List (BitVec w)) : BitVec w := words.foldl addCarry 0

theorem two_pow_sub_one_pos (hw : 0 < w) : 0 < 2 ^ w - 1 := by
  have hpow : 2 ^ 1 ≤ 2 ^ w := Nat.pow_le_pow_right (by decide) hw
  omega

theorem toNat_addCarry (hw : 0 < w) (a b : BitVec w) :
    (addCarry a b).toNat = residue (2 ^ w - 1) (a.toNat + b.toNat) := by
  have hpos := two_pow_sub_one_pos hw
  have ha := a.isLt
  have hb := b.isLt
  unfold addCarry
  split
  · rename_i hlt
    rw [BitVec.toNat_add_of_lt hlt, residue_of_le (by omega)]
  · rename_i hge
    have hone : (1#w).toNat = 1 := BitVec.toNat_one hw
    have hcarry : (a.toNat + b.toNat) % 2 ^ w = a.toNat + b.toNat - 2 ^ w := by
      rw [Nat.mod_eq_sub_mod (by omega), Nat.mod_eq_of_lt (by omega)]
    have hvalue : (a + b + 1#w).toNat = a.toNat + b.toNat - 2 ^ w + 1 := by
      rw [BitVec.toNat_add, BitVec.toNat_add, hcarry, hone, Nat.mod_eq_of_lt (by omega)]
    rw [hvalue]
    symm
    refine residue_eq (by omega) ?_ (by omega)
    -- the carry is worth `2 ^ w` and comes back as 1
    refine (Nat.modEq_iff_dvd' (by omega)).2 ⟨1, ?_⟩
    omega

theorem toNat_foldl_addCarry (hw : 0 < w) (words : List (BitVec w)) (a : BitVec w) :
    (words.foldl addCarry a).toNat =
      residue (2 ^ w - 1) (a.toNat + (words.map BitVec.toNat).sum) := by
  induction words generalizing a with
  | nil =>
    have ha := a.isLt
    rw [List.foldl_nil, List.map_nil, List.sum_nil, Nat.add_zero, residue_of_le (by omega)]
  | cons b words ih =>
    rw [List.foldl_cons, ih, toNat_addCarry hw, residue_residue_add (two_pow_sub_one_pos hw),
      List.map_cons, List.sum_cons, Nat.add_assoc]

theorem toNat_sum (hw : 0 < w) (words : List (BitVec w)) :
    (sum words).toNat = residue (2 ^ w - 1) (words.map BitVec.toNat).sum := by
  rw [sum, toNat_foldl_addCarry hw]
  simp

/-- The order of the words does not matter. -/
theorem sum_perm (hw : 0 < w) {words words' : List (BitVec w)} (h : words.Perm words') :
    sum words = sum words' := by
  refine BitVec.eq_of_toNat_eq ?_
  rw [toNat_sum hw, toNat_sum hw, (h.map BitVec.toNat).sum_eq]

theorem toNat_not_sum (hw : 0 < w) (words : List (BitVec w)) :
    (~~~sum words).toNat = 2 ^ w - 1 - residue (2 ^ w - 1) (words.map BitVec.toNat).sum := by
  rw [BitVec.toNat_not, toNat_sum hw]

/-- With the complement of its sum, a list of words sums to the word of ones. -/
theorem sum_cons_not_sum (hw : 0 < w) (words : List (BitVec w)) :
    sum (~~~sum words :: words) = BitVec.allOnes w := by
  refine BitVec.eq_of_toNat_eq ?_
  rw [toNat_sum hw, List.map_cons, List.sum_cons, toNat_not_sum hw, Nat.add_comm,
    residue_add_sub (two_pow_sub_one_pos hw), BitVec.toNat_allOnes]

/-- A word of zeros does not count. -/
theorem sum_cons_zero (words : List (BitVec w)) : sum (0 :: words) = sum words := by
  have hzero : addCarry (0 : BitVec w) 0 = 0 := by simp [addCarry]
  rw [sum, List.foldl_cons, hzero, sum]

/-! ### Folding the carries -/

/-- What is above the low `w` bits, added to what is below. -/
def fold (w n : ℕ) : ℕ := n / 2 ^ w + n % 2 ^ w

theorem fold_modEq (w n : ℕ) : fold w n ≡ n [MOD 2 ^ w - 1] := by
  have hpow : 1 ≤ 2 ^ w := Nat.one_le_two_pow
  have hle : fold w n ≤ n := by
    calc
      fold w n ≤ 2 ^ w * (n / 2 ^ w) + n % 2 ^ w :=
        Nat.add_le_add_right (Nat.le_mul_of_pos_left _ hpow) _
      _ = n := Nat.div_add_mod n (2 ^ w)
  refine (Nat.modEq_iff_dvd' hle).2 ⟨n / 2 ^ w, ?_⟩
  have hdiv := Nat.div_add_mod n (2 ^ w)
  rw [Nat.sub_mul, one_mul]
  unfold fold
  omega

theorem fold_eq_zero_iff {n : ℕ} : fold w n = 0 ↔ n = 0 := by
  constructor
  · intro h
    have hdiv := Nat.div_add_mod n (2 ^ w)
    obtain ⟨hhigh, hlow⟩ := Nat.add_eq_zero_iff.1 h
    rw [hhigh, hlow] at hdiv
    simpa using hdiv.symm
  · rintro rfl
    simp [fold]

theorem residue_fold (hw : 0 < w) (n : ℕ) :
    residue (2 ^ w - 1) (fold w n) = residue (2 ^ w - 1) n :=
  residue_congr (fold_modEq w n) fold_eq_zero_iff (two_pow_sub_one_pos hw)

/-- A number of `2 * w` bits has at most one carry left after a fold. -/
theorem fold_le {n : ℕ} (h : n < 2 ^ w * 2 ^ w) : fold w n ≤ 2 * (2 ^ w - 1) := by
  have hhigh : n / 2 ^ w < 2 ^ w := Nat.div_lt_of_lt_mul h
  have hlow : n % 2 ^ w < 2 ^ w := Nat.mod_lt _ (Nat.two_pow_pos w)
  unfold fold
  omega

theorem fold_fold_le {n : ℕ} (h : n < 2 ^ w * 2 ^ w) : fold w (fold w n) ≤ 2 ^ w - 1 := by
  have hle := fold_le h
  have hpow : 1 ≤ 2 ^ w := Nat.one_le_two_pow
  have hdiv := Nat.div_add_mod (fold w n) (2 ^ w)
  have hlow : fold w n % 2 ^ w < 2 ^ w := Nat.mod_lt _ (Nat.two_pow_pos w)
  have hhigh : fold w n / 2 ^ w < 2 := Nat.div_lt_of_lt_mul (by omega)
  rcases Nat.le_one_iff_eq_zero_or_eq_one.1 (Nat.le_of_lt_succ hhigh) with hhigh | hhigh
  · rw [fold, hhigh]
    omega
  · rw [hhigh, mul_one] at hdiv
    rw [fold, hhigh]
    omega

theorem fold_fold_eq_residue (hw : 0 < w) {n : ℕ} (h : n < 2 ^ w * 2 ^ w) :
    fold w (fold w n) = residue (2 ^ w - 1) n := by
  rw [← residue_fold hw n, ← residue_fold hw (fold w n), residue_of_le (fold_fold_le h)]

end OnesComplement
